import ZBot.Js.Packing
import ZBot.Verify.Effects

/-!
# The printers

The four printers run one loop over the lines of a long text. The loop is the greedy packing of the
lines, each counted with its line break (`bundle_pack`), and what a printer sends are the groups of
the packing (`Printer.print_long`). So

* nothing is lost, repeated or reordered (`print_lossless`);
* when every line fits into a message, no message is empty or too long, and there are as few of them
  as the lines allow (`print_fewest`).

`ZBot.printLongMessage` sends a long line in pieces of a regular expression whose dot does not match
all code units. What it does not match is lost (`printLongMessage_line_iff`), and when nothing
matches the printer throws. A line of 2000 code units or more among others is sent as one message
that is too long (`printLongMessage_fits_iff`).
-/

namespace ZBot

open Js

/-! ## The loop over the lines -/

section Bundling

/-- The code units that a line takes in a message. -/
def lineLength (line : Text) : Nat := line.length + 1

/-- A group of lines as it is sent. -/
def payload (group : List Text) : Text := group.flatMap (· ++ nl)

theorem payload_append (group group' : List Text) :
    payload (group ++ group') = payload group ++ payload group' := List.flatMap_append ..

theorem payload_length (group : List Text) :
    (payload group).length = groupWeight lineLength group := by
  induction group with
  | nil => rfl
  | cons line group ih =>
    rw [payload, List.flatMap_cons, List.length_append, List.length_append, groupWeight, ← ih]
    rfl

theorem payload_flatten (groups : List (List Text)) :
    (groups.map payload).flatten = payload groups.flatten := by
  induction groups with
  | nil => rfl
  | cons group groups ih =>
    rw [List.map_cons, List.flatten_cons, List.flatten_cons, payload_append, ih]

/-- **The loop is the greedy packing.** The two accumulators stay equal: both are the group that is
being filled. -/
theorem bundle_pack (limit : Nat) {lines : List Text} (hlines : lines ≠ []) (current : List Text) :
    bundle limit lines (payload current) (payload current) =
      (pack lineLength limit lines current).map payload := by
  induction lines generalizing current with
  | nil => exact absurd rfl hlines
  | cons line rest ih =>
    have hnext : payload current ++ line ++ nl = payload (current ++ [line]) := by
      rw [payload_append, payload, payload, List.flatMap_singleton, List.append_assoc]
    have hfirst : line ++ nl = payload [line] := (List.flatMap_singleton ..).symm
    rw [bundle, pack, hnext, hfirst, payload_length]
    cases rest with
    | nil =>
      split <;> simp [bundle, pack]
    | cons line' rest =>
      simp only [List.isEmpty_cons, Bool.false_eq_true, if_false, List.nil_append]
      split
      · rw [ih (List.cons_ne_nil _ _), List.map_cons]
      · exact ih (List.cons_ne_nil _ _) _

/-- What a printer sends for a text with the given lines. -/
def payloads (limit : Nat) (lines : List Text) : List Text :=
  (pack lineLength limit lines []).map payload

theorem bundle_eq (limit : Nat) {lines : List Text} (hlines : lines ≠ []) :
    bundle limit lines [] [] = payloads limit lines := bundle_pack limit hlines []

theorem payloads_flatten (limit : Nat) (lines : List Text) :
    (payloads limit lines).flatten = payload lines := by
  rw [payloads, payload_flatten, pack_flatten, List.nil_append]

/-- The messages are within the limit, and none is empty, when every line fits into one. -/
theorem payloads_fit {limit : Nat} {lines : List Text} (hlines : lines ≠ [])
    (hfit : ∀ line ∈ lines, lineLength line ≤ limit) :
    ∀ text ∈ payloads limit lines, text ≠ [] ∧ text.length ≤ limit := by
  intro text htext
  obtain ⟨group, hgroup, rfl⟩ := List.mem_map.1 htext
  constructor
  · have hne := pack_nonempty (.inr hlines) hfit group hgroup
    obtain ⟨line, rest, rfl⟩ := List.exists_cons_of_ne_nil hne
    simp [payload, nl]
  · rw [payload_length]
    exact pack_within (Nat.zero_le _) hfit group hgroup

/-- A line that does not fit makes a message that is too long. -/
theorem payloads_overlong {limit : Nat} {lines : List Text} {line : Text} (hline : line ∈ lines)
    (hover : limit < lineLength line) : ∃ text ∈ payloads limit lines, limit < text.length := by
  have hmem : line ∈ (pack lineLength limit lines []).flatten := by
    rw [pack_flatten]
    exact hline
  obtain ⟨group, hgroup, hline'⟩ := List.mem_flatten.1 hmem
  refine ⟨payload group, List.mem_map_of_mem hgroup, ?_⟩
  rw [payload_length]
  exact hover.trans_le (weight_le_groupWeight hline')

end Bundling

/-! ## The four printers -/

section Printers

inductive Printer where
  | message
  | markup
  | quoted
  | zbot

namespace Printer

def print : Printer → Text → Option Channel → Emit Unit
  | message => printLongMessage
  | markup => printLongMarkupMessage
  | quoted => printLongQuotedMessage
  | zbot => zbotPrintLongMessage

/-- The longest bundle of the printer. -/
def limit : Printer → Nat
  | message | zbot => 2000
  | markup | quoted => 1980

def opening : Printer → Text
  | message | zbot => []
  | markup => lit "```Markdown\n"
  | quoted => lit "```\n"

def closing : Printer → Text
  | message | zbot => []
  | markup | quoted => lit "```"

/-- A bundle in the printer's fence. -/
def fenced (p : Printer) (text : Text) : Text := p.opening ++ text ++ p.closing

theorem fenced_length (p : Printer) (text : Text) :
    (p.fenced text).length ≤ text.length + (2000 - p.limit) := by
  have hfence : p.opening.length + p.closing.length ≤ 2000 - p.limit := by
    cases p <;> decide +kernel
  rw [fenced, List.length_append, List.length_append]
  omega

end Printer

theorem printFenced_long (opening : Text) {text : Text} (hlong : 1980 < text.length)
    (channel : Option Channel) :
    printFenced opening text channel =
      sendAll channel
        ((payloads 1980 (splitLines text)).map fun t => opening ++ t ++ lit "```") := by
  rw [printFenced, if_neg (Nat.not_le.2 hlong), bundle_eq _ (splitLines_ne_nil text)]

theorem printLongMessage_long {text : Text} (hlong : 2000 < text.length)
    (channel : Option Channel) : printLongMessage text channel =
      sendAll channel (payloads 2000 (splitLines text)) := by
  rw [printLongMessage, if_neg (Nat.not_le.2 hlong), bundle_eq _ (splitLines_ne_nil text)]

theorem zbotPrintLongMessage_lines {text : Text} (hlong : 2000 < text.length)
    (hlines : newline ∈ text) (channel : Option Channel) : zbotPrintLongMessage text channel =
      sendAll channel (payloads 2000 (splitLines text)) := by
  have hsome : ¬text.isEmpty = true := by
    cases text with
    | nil => cases hlines
    | cons x text => exact nofun
  have hmany : (splitLines text).length ≠ 1 := fun h => splitLines_single_iff.1 h hlines
  rw [zbotPrintLongMessage, if_neg hsome, if_neg (Nat.not_le.2 hlong)]
  simp only [if_neg hmany, bundle_eq _ (splitLines_ne_nil text)]

/-- **A long text with line breaks is sent as the groups of the packing**, each in the fence. -/
theorem Printer.print_long (p : Printer) {text : Text} (hlong : p.limit < text.length)
    (hlines : newline ∈ text) (channel : Option Channel) : p.print text channel =
      sendAll channel ((payloads p.limit (splitLines text)).map p.fenced) := by
  have hplain : ∀ q : Printer, q.opening = [] → q.closing = [] → q.fenced = id := by
    intro q hopening hclosing
    funext text
    rw [Printer.fenced, hopening, hclosing, List.nil_append, List.append_nil, id]
  cases p with
  | message =>
    rw [hplain _ rfl rfl, List.map_id]
    exact printLongMessage_long hlong channel
  | markup => exact printFenced_long _ hlong channel
  | quoted => exact printFenced_long _ hlong channel
  | zbot =>
    rw [hplain _ rfl rfl, List.map_id]
    exact zbotPrintLongMessage_lines hlong hlines channel

theorem sendTextMessage_text {c : Channel} (hc : c.type = .text) (text : Text)
    (calls : List Effect) :
    sendTextMessage (some c) text calls = (.ok (), calls ++ [.send c text]) := by
  rw [sendTextMessage, decide_eq_true hc]
  rfl

theorem sendAll_text {c : Channel} (hc : c.type = .text) (texts : List Text)
    (calls : List Effect) :
    sendAll (some c) texts calls = (.ok (), calls ++ texts.map (.send c)) := by
  induction texts generalizing calls with
  | nil => simp [sendAll, Prog.forEach]
  | cons text texts ih =>
    rw [sendAll, Prog.forEach, Prog.bind_ok (sendTextMessage_text hc text calls)]
    change sendAll (some c) texts _ = _
    rw [ih]
    simp

/-- **Nothing is lost, repeated or reordered.** The messages are, in their fences, groups of whole
lines, which are all lines of the text in their order. -/
theorem print_lossless (p : Printer) {text : Text} {c : Channel} (hc : c.type = .text)
    (hlong : p.limit < text.length) (hlines : newline ∈ text) :
    ∃ (bundles : List Text) (groups : List (List Text)),
      p.print text (some c) [] = (.ok (), bundles.map fun bundle => .send c (p.fenced bundle)) ∧
      bundles.flatten = (splitLines text).flatMap (· ++ nl) ∧
      groups.flatten = splitLines text ∧
      bundles = groups.map fun group => group.flatMap (· ++ nl) := by
  rw [p.print_long hlong hlines, sendAll_text hc, List.map_map]
  exact ⟨payloads p.limit (splitLines text), pack lineLength p.limit (splitLines text) [], rfl,
    payloads_flatten _ _, pack_flatten, rfl⟩

/-- A channel that messages can be sent to. -/
def textChannel : Channel := ⟨lit "log", none, lit "log", .text⟩

/-- Two lines of 1500 code units. -/
def twoLines : Text := List.replicate 1500 97 ++ newline :: List.replicate 1500 98

theorem twoLines_length : twoLines.length = 3001 := by decide +kernel

theorem twoLines_newline : newline ∈ twoLines := by decide +kernel

theorem print_lossless_two :
    ∃ (bundles : List Text) (groups : List (List Text)),
      Printer.print .markup twoLines (some textChannel) [] =
        (.ok (), bundles.map fun bundle => .send textChannel (Printer.fenced .markup bundle)) ∧
      bundles.flatten = (splitLines twoLines).flatMap (· ++ nl) ∧
      groups.flatten = splitLines twoLines ∧
      bundles = groups.map fun group => group.flatMap (· ++ nl) :=
  print_lossless .markup rfl (by rw [twoLines_length]; decide) twoLines_newline

/-- **As few messages as possible**, when every line fits into one. -/
theorem print_fewest (p : Printer) {text : Text} {c : Channel} (hc : c.type = .text)
    (hlong : p.limit < text.length) (hlines : newline ∈ text)
    (hfit : ∀ line ∈ splitLines text, line.length ≤ p.limit - 1) :
    ∃ bundles : List Text,
      p.print text (some c) [] = (.ok (), bundles.map fun bundle => .send c (p.fenced bundle)) ∧
      (∀ bundle ∈ bundles, bundle ≠ [] ∧ bundle.length ≤ p.limit ∧
        (p.fenced bundle).length ≤ 2000) ∧
      IsLeast (packings (fun line => line.length + 1) p.limit (splitLines text))
        bundles.length := by
  have hlimit : 0 < p.limit ∧ p.limit ≤ 2000 := by cases p <;> decide
  have hfit' : ∀ line ∈ splitLines text, lineLength line ≤ p.limit := fun line hline =>
    Nat.add_le_of_le_sub hlimit.1 (hfit line hline)
  rw [p.print_long hlong hlines, sendAll_text hc, List.map_map]
  refine ⟨payloads p.limit (splitLines text), rfl, fun bundle hbundle => ?_, ?_⟩
  · obtain ⟨hne, hle⟩ := payloads_fit (splitLines_ne_nil text) hfit' bundle hbundle
    have hfence := p.fenced_length bundle
    exact ⟨hne, hle, by omega⟩
  · rw [payloads, List.length_map]
    exact pack_isLeast (splitLines_ne_nil text) hfit'

theorem twoLines_fit : ∀ line ∈ splitLines twoLines, line.length ≤ 1979 := by decide +kernel

theorem print_fewest_two :
    ∃ bundles : List Text,
      Printer.print .markup twoLines (some textChannel) [] =
        (.ok (), bundles.map fun bundle => .send textChannel (Printer.fenced .markup bundle)) ∧
      (∀ bundle ∈ bundles, bundle ≠ [] ∧ bundle.length ≤ 1980 ∧
        (Printer.fenced .markup bundle).length ≤ 2000) ∧
      IsLeast (packings (fun line => line.length + 1) 1980 (splitLines twoLines))
        bundles.length :=
  print_fewest .markup rfl (by rw [twoLines_length]; decide) twoLines_newline twoLines_fit

end Printers

/-! ## A single line -/

section Line

variable {limit : Nat}

/-- The pieces are what the dot matches, in order. -/
theorem dotPieces_flatten (limit : Nat) (text piece : Text) :
    (dotPieces limit text piece).flatten = piece ++ text.filter isDot := by
  induction text generalizing piece with
  | nil =>
    cases piece with
    | nil => rfl
    | cons x piece => simp [dotPieces]
  | cons x text ih =>
    rw [dotPieces]
    cases hx : isDot x with
    | true =>
      rw [if_pos rfl, List.filter_cons_of_pos hx]
      split
      · rw [List.flatten_cons, ih]
        simp
      · rw [ih]
        simp
    | false =>
      rw [if_neg Bool.false_ne_true, List.filter_cons_of_neg (by simp [hx]), List.flatten_append,
        ih]
      cases piece <;> simp

/-- No piece is empty or longer than the limit. -/
theorem dotPieces_bounds {text piece : Text} (hpiece : piece.length < limit) :
    ∀ p ∈ dotPieces limit text piece, p ≠ [] ∧ p.length ≤ limit := by
  have hend : ∀ {piece : Text}, piece.length < limit →
      ∀ p ∈ (if piece.isEmpty then [] else [piece]), p ≠ [] ∧ p.length ≤ limit := by
    intro piece hpiece p hp
    cases piece with
    | nil => cases hp
    | cons x piece =>
      rw [List.mem_singleton.1 hp]
      exact ⟨List.cons_ne_nil _ _, hpiece.le⟩
  induction text generalizing piece with
  | nil => exact hend hpiece
  | cons x text ih =>
    have hnew : ∀ p ∈ dotPieces limit text [], p ≠ [] ∧ p.length ≤ limit :=
      ih (Nat.zero_lt_of_lt hpiece)
    rw [dotPieces]
    split
    · split
      · rename_i hfull
        refine List.forall_mem_cons.2 ⟨⟨by simp, ?_⟩, hnew⟩
        rw [List.length_append, List.length_singleton, hfull]
      · rename_i hroom
        refine ih ?_
        rw [List.length_append, List.length_singleton]
        omega
    · intro p hp
      rcases List.mem_append.1 hp with hp | hp
      · exact hend hpiece p hp
      · exact hnew p hp

/-- The pieces of a line. -/
def linePieces (text : Text) : List Text := dotPieces 1999 text []

theorem linePieces_flatten (text : Text) : (linePieces text).flatten = text.filter isDot :=
  dotPieces_flatten 1999 text []

theorem linePieces_bounds (text : Text) : ∀ p ∈ linePieces text, p ≠ [] ∧ p.length ≤ 1999 :=
  dotPieces_bounds (by decide)

theorem linePieces_eq_nil_iff {text : Text} :
    linePieces text = [] ↔ ∀ x ∈ text, isDot x = false := by
  have hflatten := linePieces_flatten text
  constructor
  · intro h x hx
    rw [h, List.flatten_nil] at hflatten
    simpa using List.filter_eq_nil_iff.1 hflatten.symm x hx
  · intro h
    rw [List.filter_eq_nil_iff.2 fun x hx => by simp [h x hx]] at hflatten
    refine List.eq_nil_iff_forall_not_mem.2 fun p hp => (linePieces_bounds text p hp).1 ?_
    exact List.flatten_eq_nil_iff.1 hflatten p hp

/-- **A long line is sent in its pieces**, and where there are none the printer throws. -/
theorem zbotPrintLongMessage_line {text : Text} (hlong : 2000 < text.length)
    (hline : newline ∉ text) (channel : Option Channel) : zbotPrintLongMessage text channel =
      if linePieces text = [] then Prog.raise .typeError
      else sendAll channel (payloads 2000 (linePieces text)) := by
  have hsome : ¬text.isEmpty = true := by
    cases text with
    | nil => cases hlong
    | cons x text => exact nofun
  rw [zbotPrintLongMessage, if_neg hsome, if_neg (Nat.not_le.2 hlong)]
  simp only [if_pos (splitLines_single_iff.2 hline), List.isEmpty_iff]
  change (if linePieces text = [] then _
    else sendAll channel (bundle 2000 (linePieces text) [] [])) = _
  split
  · rfl
  · rename_i h
    rw [bundle_eq _ h]

end Line

/-! ## What arrives in the channel -/

section Sent

variable {text : Text} {c : Channel}

/-- What is handed to `channel.send`. -/
def sent (calls : List Effect) : List Text :=
  calls.filterMap fun
    | .send _ text => some text
    | _ => none

theorem sent_send (c : Channel) (texts : List Text) : sent (texts.map (.send c)) = texts := by
  rw [sent, List.filterMap_map]
  exact List.filterMap_some

theorem sendAll_sent (hc : c.type = .text) (texts : List Text) :
    (sendAll (some c) texts []).1 = .ok () ∧ sent (sendAll (some c) texts []).2 = texts := by
  rw [sendAll_text hc]
  exact ⟨rfl, sent_send c texts⟩

/-- The pieces of a line, put together again without the line breaks. -/
theorem linePieces_joined (text : Text) :
    (payload (linePieces text)).filter (· ≠ newline) = text.filter isDot := by
  have hnl : nl.filter (· ≠ newline) = [] := by decide
  have hpiece : ∀ p ∈ linePieces text, (p ++ nl).filter (· ≠ newline) = p := by
    intro p hp
    have hself : p.filter (· ≠ newline) = p := by
      refine List.filter_eq_self.2 fun x hx => decide_eq_true ?_
      have hdot : x ∈ text.filter isDot := by
        rw [← linePieces_flatten]
        exact List.mem_flatten.2 ⟨p, hp, hx⟩
      rintro rfl
      exact absurd (List.mem_filter.1 hdot).2 (by decide)
    rw [List.filter_append, hself, hnl, List.append_nil]
  rw [payload, List.filter_flatMap, List.flatMap_congr hpiece, ← linePieces_flatten,
    List.flatMap_id']

/-- What arrives of a long line. -/
theorem zbotPrintLongMessage_arrives (hc : c.type = .text) (hlong : 2000 < text.length)
    (hline : newline ∉ text) :
    (sent (zbotPrintLongMessage text (some c) []).2).flatten.filter (· ≠ newline) =
      text.filter isDot := by
  rw [zbotPrintLongMessage_line hlong hline, ← linePieces_joined]
  split
  · rename_i hnone
    rw [hnone]
    rfl
  · rw [(sendAll_sent hc _).2, payloads_flatten]

/-- **A long line arrives as it is** when it has no line terminator at all. -/
theorem printLongMessage_line_iff (hc : c.type = .text) (hlong : 2000 < text.length)
    (hline : newline ∉ text) :
    (sent (zbotPrintLongMessage text (some c) []).2).flatten.filter (· ≠ newline) = text ↔
      ∀ x ∈ text, isDot x = true := by
  rw [zbotPrintLongMessage_arrives hc hlong hline, List.filter_eq_self]

theorem printLongMessage_line_plain :
    (sent (zbotPrintLongMessage (List.replicate 2001 97) (some textChannel) []).2).flatten.filter
      (· ≠ newline) = List.replicate 2001 97 := by
  refine (printLongMessage_line_iff rfl (by decide +kernel) ?_).2 fun x hx => ?_
  · intro h
    exact absurd (List.eq_of_mem_replicate h) (by decide)
  · rw [List.eq_of_mem_replicate hx]
    decide

/-- A long line, a carriage return, and one more character. -/
def brokenLine : Text := List.replicate 2000 97 ++ [carriageReturn, 98]

/-- The carriage return is lost. -/
theorem lost_return : 2000 < brokenLine.length ∧ newline ∉ brokenLine ∧
    (sent (zbotPrintLongMessage brokenLine (some textChannel) []).2).flatten.filter
      (· ≠ newline) ≠ brokenLine := by
  have hlong : 2000 < brokenLine.length := by decide +kernel
  have hline : newline ∉ brokenLine := by decide +kernel
  refine ⟨hlong, hline, fun h => ?_⟩
  rw [zbotPrintLongMessage_arrives rfl hlong hline, List.filter_eq_self] at h
  exact absurd (h carriageReturn (by decide +kernel)) (by decide)

/-- The printer returns, and Discord takes every message it sends. -/
def Fits (text : Text) (c : Channel) : Prop :=
  (zbotPrintLongMessage text (some c) []).1 = .ok () ∧
    ∀ message ∈ sent (zbotPrintLongMessage text (some c) []).2,
      1 ≤ message.length ∧ message.length ≤ 2000

theorem fits_short (hc : c.type = .text) (hne : text ≠ []) (hshort : text.length ≤ 2000) :
    Fits text c := by
  have hsome : ¬text.isEmpty = true := by simpa using hne
  rw [Fits, zbotPrintLongMessage, if_neg hsome, if_pos hshort, sendTextMessage_text hc]
  refine ⟨rfl, fun message hmessage => ?_⟩
  rw [List.mem_singleton.1 hmessage]
  exact ⟨List.length_pos_iff.2 hne, hshort⟩

theorem fits_lines_iff (hc : c.type = .text) (hlong : 2000 < text.length)
    (hlines : newline ∈ text) :
    Fits text c ↔ ∀ line ∈ splitLines text, line.length ≤ 1999 := by
  obtain ⟨hok, hsent⟩ := sendAll_sent hc (payloads 2000 (splitLines text))
  rw [Fits, zbotPrintLongMessage_lines hlong hlines, hsent, and_iff_right hok]
  constructor
  · intro h line hline
    by_contra hover
    obtain ⟨message, hmessage, hover'⟩ :=
      payloads_overlong hline (show 2000 < lineLength line by rw [lineLength]; omega)
    exact absurd (h message hmessage).2 (Nat.not_le.2 hover')
  · intro h message hmessage
    obtain ⟨hne, hle⟩ := payloads_fit (splitLines_ne_nil text)
      (fun line hline => Nat.add_le_add_right (h line hline) 1) message hmessage
    exact ⟨List.length_pos_iff.2 hne, hle⟩

theorem fits_line_iff (hc : c.type = .text) (hlong : 2000 < text.length) (hline : newline ∉ text) :
    Fits text c ↔ ∃ x ∈ text, isDot x = true := by
  have hdots : linePieces text = [] ↔ ¬∃ x ∈ text, isDot x = true := by
    rw [linePieces_eq_nil_iff]
    simp
  rw [Fits, zbotPrintLongMessage_line hlong hline]
  split
  · rename_i hnone
    exact ⟨fun h => (nomatch h.1), fun h => absurd h (hdots.1 hnone)⟩
  · rename_i hsome
    obtain ⟨hok, hsent⟩ := sendAll_sent hc (payloads 2000 (linePieces text))
    refine ⟨fun _ => not_not.1 (mt hdots.2 hsome), fun _ => ⟨hok, fun message hmessage => ?_⟩⟩
    rw [hsent] at hmessage
    obtain ⟨hne, hle⟩ := payloads_fit hsome
      (fun p hp => Nat.add_le_add_right (linePieces_bounds text p hp).2 1) message hmessage
    exact ⟨List.length_pos_iff.2 hne, hle⟩

/-- **The limit of Discord.** -/
theorem printLongMessage_fits_iff (hc : c.type = .text) (hne : text ≠ []) :
    Fits text c ↔ text.length ≤ 2000 ∨ (newline ∉ text ∧ ∃ x ∈ text, isDot x = true) ∨
      (newline ∈ text ∧ ∀ line ∈ splitLines text, line.length ≤ 1999) := by
  by_cases hshort : text.length ≤ 2000
  · exact ⟨fun _ => .inl hshort, fun _ => fits_short hc hne hshort⟩
  · have hlong := Nat.not_le.1 hshort
    by_cases hlines : newline ∈ text
    · simp only [fits_lines_iff hc hlong hlines, hshort, hlines, not_true, false_and, true_and,
        false_or]
    · simp only [fits_line_iff hc hlong hlines, hshort, hlines, not_false_iff, false_and, true_and,
        false_or, or_false]

theorem printLongMessage_fits_two : Fits twoLines textChannel := by
  refine (printLongMessage_fits_iff rfl (List.ne_nil_of_mem twoLines_newline)).2
    (.inr (.inr ⟨twoLines_newline, fun line hline => ?_⟩))
  exact (twoLines_fit line hline).trans (by decide)

/-- A line that is too long for a message, and a second one. -/
def overlongLine : Text := List.replicate 2000 97 ++ [newline, 98]

/-- The overlong line is sent as one message of 2001 code units, after an empty one. -/
theorem overlong_message : overlongLine ≠ [] ∧ textChannel.type = .text ∧
    ¬Fits overlongLine textChannel := by
  have hlong : ∃ line ∈ splitLines overlongLine, ¬line.length ≤ 1999 := by decide +kernel
  refine ⟨by decide +kernel, rfl, fun h => ?_⟩
  obtain ⟨line, hline, hover⟩ := hlong
  exact hover ((fits_lines_iff rfl (by decide +kernel) (by decide +kernel)).1 h line hline)

end Sent

end ZBot
