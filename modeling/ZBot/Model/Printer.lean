import ZBot.Model.Discord

/-!
# Printing long messages

Discord takes at most 2000 code units in a message. The four printers split a longer text into
lines and bundle them. They share one loop, `bundle`, which keeps two accumulators as the sources
do: the bundle so far, and the bundle with the next line tried on it.
-/

namespace ZBot

open Js

def nl : Text := [newline]

/-- The `forEach` over the lines: `bundled` and `tried` are `bundledMessage` and
`newBundledMessage`, and the result is the messages in the order they are sent. -/
def bundle (limit : Nat) : List Text → Text → Text → List Text
  | [], _, _ => []
  | line :: rest, bundled, tried =>
    let tried := tried ++ line ++ nl
    if tried.length > limit then
      -- the last line still goes out on its own after the flush
      bundled :: ((if rest.isEmpty then [line ++ nl] else []) ++
        bundle limit rest (line ++ nl) (line ++ nl))
    else
      (if rest.isEmpty then [bundled ++ line ++ nl] else []) ++
        bundle limit rest (bundled ++ line ++ nl) tried

/-- Sends each of the texts to the channel. -/
def sendAll (channel : Option Channel) (texts : List Text) : Emit Unit :=
  Prog.forEach texts (sendTextMessage channel)

/-- The two printers that put each message into a code block. A short text gets a line break before
the closing fence, a bundle ends with its own. -/
def printFenced (opening : Text) (text : Text) (channel : Option Channel) : Emit Unit :=
  if text.length ≤ 1980 then
    sendTextMessage channel (opening ++ text ++ lit "\n```")
  else
    sendAll channel ((bundle 1980 (splitLines text) [] []).map fun t => opening ++ t ++ lit "```")

/-- `ZBotBERcon.printLongMarkupMessage`. -/
def printLongMarkupMessage (text : Text) (channel : Option Channel) : Emit Unit :=
  printFenced (lit "```Markdown\n") text channel

/-- `ZBotBERcon.printLongQuotedMessage`. -/
def printLongQuotedMessage (text : Text) (channel : Option Channel) : Emit Unit :=
  printFenced (lit "```\n") text channel

/-- `ZBotBERcon.printLongMessage`. -/
def printLongMessage (text : Text) (channel : Option Channel) : Emit Unit :=
  if text.length ≤ 2000 then sendTextMessage channel text
  else sendAll channel (bundle 2000 (splitLines text) [] [])

/-- The code units the dot of a regular expression matches: all but the line terminators. -/
def isDot (c : UInt16) : Bool := c != 10 && c != 13 && c != 0x2028 && c != 0x2029

/-- `text.match(/.{1,limit}/g)`, with the piece matched so far. No match is the empty list here,
and `null` in the source. -/
def dotPieces (limit : Nat) : Text → Text → List Text
  | [], piece => if piece.isEmpty then [] else [piece]
  | c :: s, piece =>
    if isDot c then
      if piece.length + 1 = limit then (piece ++ [c]) :: dotPieces limit s []
      else dotPieces limit s (piece ++ [c])
    else (if piece.isEmpty then [] else [piece]) ++ dotPieces limit s []

/-- `ZBot.printLongMessage`. A single line is cut into pieces of 1999 first; where the expression
matches nothing, `null.forEach` throws. -/
def zbotPrintLongMessage (text : Text) (channel : Option Channel) : Emit Unit :=
  if text.isEmpty then pure ()
  else if text.length ≤ 2000 then sendTextMessage channel text
  else
    let lines := splitLines text
    if lines.length = 1 then
      let pieces := dotPieces 1999 text []
      if pieces.isEmpty then Prog.raise .typeError else sendAll channel (bundle 2000 pieces [] [])
    else sendAll channel (bundle 2000 lines [] [])

end ZBot
