import Ork3.Library.Utf8
import Ork3.Model.Osc

/-!
# Capability queries in the output of a pane

`XtgettcapQueryTracker` of `pane/xtgettcap.rs`: the byte automaton that reads capability queries, and
the responses it makes for them.
-/

namespace Ork3.Pane

open Ork3.Library

/-! ### Responses -/

def isAsciiHexdigit (byte : UInt8) : Bool :=
  isAsciiDigit byte || (0x41 ≤ byte && byte ≤ 0x46) || (0x61 ≤ byte && byte ≤ 0x66)

def toAsciiUppercase (byte : UInt8) : UInt8 := if 0x61 ≤ byte ∧ byte ≤ 0x7a then byte - 0x20 else byte

/-- The capabilities that the pane path stands behind; the inner `none` is one without a value. -/
def xtgettcapValue (capHex : List UInt8) : Option (Option (List UInt8)) :=
  if capHex = asciiBytes "5463" then some none
  else if capHex = asciiBytes "524742" then some (some (asciiBytes "8"))
  else if capHex = asciiBytes "73657472676266" then
    some (some (asciiBytes "\\E[38:2:%p1%d:%p2%d:%p3%dm"))
  else if capHex = asciiBytes "73657472676262" then
    some (some (asciiBytes "\\E[48:2:%p1%d:%p2%d:%p3%dm"))
  else if capHex = asciiBytes "4D73" then some (some (asciiBytes "\\E]52;%p1%s;%p2%s\\007"))
  else if capHex = asciiBytes "5375" then some none
  else if capHex = asciiBytes "536D756C78" then some (some (asciiBytes "\\E[4:%p1%dm"))
  else if capHex = asciiBytes "536574756C63" then
    some (some (asciiBytes
      "\\E[58:2::%p1%\x7b65536\x7d%/%d:%p1%\x7b256\x7d%/%\x7b255\x7d%&%d:%p1%\x7b255\x7d%&%d%;m"))
  else none

def hexDigitUpper (n : UInt8) : UInt8 := if n < 10 then 0x30 + n else 0x41 + (n - 10)

def appendUpperHex (bytes output : List UInt8) : List UInt8 :=
  output ++ bytes.flatMap fun (byte : UInt8) => [hexDigitUpper (byte >>> 4), hexDigitUpper (byte &&& 0x0f)]

def buildXtgettcapResponse (capHex : List UInt8) (value : Option (List UInt8)) : List UInt8 :=
  let response := asciiBytes "\x1bP1+r" ++ capHex
  let response := match value with
    | some value => appendUpperHex value (response ++ asciiBytes "=")
    | none => response
  response ++ [esc, backslash]

def xtgettcapResponse (capHex : List UInt8) : Option (List UInt8) :=
  if capHex.isEmpty || capHex.length % 2 ≠ 0 then none
  else if !capHex.all isAsciiHexdigit then none
  else
    let normalizedCapHex := capHex.map toAsciiUppercase
    (xtgettcapValue normalizedCapHex).map (buildXtgettcapResponse normalizedCapHex)

/-- The responses to the names of a query. -/
def xtgettcapResponses (body : List UInt8) : List (List UInt8) :=
  (body.splitOn semicolon).filterMap xtgettcapResponse

/-! ### The automaton -/

inductive XtgettcapTrackerState
  | ground | escape | dcsIntro | dcsIntroPlus | dcsBody | dcsEscape | ignoreOsc | ignoreOscEscape
  | ignoreString | ignoreStringEscape | oversizedDcs | oversizedDcsEscape
deriving DecidableEq, Repr

def plusByte : UInt8 := 0x2b
def queryByte : UInt8 := 0x71
def dcsByte : UInt8 := 0x50
def eightBitDcs : UInt8 := 0x90
def eightBitOsc : UInt8 := 0x9d
def eightBitTerminator : UInt8 := 0x9c

/-- The branches of the tracker on one byte, with the body of a query that it ends. -/
def queryTrackByte (reader : OscReader XtgettcapTrackerState) (byte : UInt8) :
    OscReader XtgettcapTrackerState × Option (List UInt8) :=
  match reader.state with
  | .ground =>
    if byte = esc then (⟨.escape, reader.body⟩, none)
    else if byte = eightBitDcs then (⟨.dcsIntro, []⟩, none)
    else if byte = eightBitOsc then (⟨.ignoreOsc, reader.body⟩, none)
    else if byte = 0x98 || byte = 0x9e || byte = 0x9f then (⟨.ignoreString, reader.body⟩, none)
    else (reader, none)
  | .escape =>
    if byte = dcsByte then (⟨.dcsIntro, []⟩, none)
    else if byte = rightBracket then (⟨.ignoreOsc, []⟩, none)
    else if byte = 0x5f || byte = 0x5e || byte = 0x58 then (⟨.ignoreString, []⟩, none)
    else if byte = esc then (⟨.escape, reader.body⟩, none)
    else (⟨.ground, reader.body⟩, none)
  | .dcsIntro =>
    if byte = plusByte then (⟨.dcsIntroPlus, reader.body⟩, none)
    else if byte = esc then (⟨.ignoreStringEscape, reader.body⟩, none)
    else if byte = eightBitTerminator then (⟨.ground, reader.body⟩, none)
    else (⟨.ignoreString, reader.body⟩, none)
  | .dcsIntroPlus =>
    if byte = queryByte then (⟨.dcsBody, reader.body⟩, none)
    else if byte = esc then (⟨.ignoreStringEscape, reader.body⟩, none)
    else if byte = eightBitTerminator then (⟨.ground, reader.body⟩, none)
    else (⟨.ignoreString, reader.body⟩, none)
  | .dcsBody =>
    if byte = esc then (⟨.dcsEscape, reader.body⟩, none)
    else if byte = eightBitTerminator then (⟨.ground, []⟩, some reader.body)
    else (⟨.dcsBody, reader.body ++ [byte]⟩, none)
  | .dcsEscape =>
    if byte = backslash then (⟨.ground, []⟩, some reader.body)
    else if byte ≠ esc then (⟨.ignoreString, []⟩, none)
    else (reader, none)
  | .ignoreOsc =>
    if byte = esc then (⟨.ignoreOscEscape, reader.body⟩, none)
    else if byte = bel || byte = eightBitTerminator then (⟨.ground, reader.body⟩, none)
    else (reader, none)
  | .ignoreOscEscape =>
    if byte = backslash then (⟨.ground, reader.body⟩, none)
    else if byte ≠ esc then (⟨.ignoreOsc, reader.body⟩, none)
    else (reader, none)
  | .ignoreString =>
    if byte = esc then (⟨.ignoreStringEscape, reader.body⟩, none)
    else if byte = eightBitTerminator then (⟨.ground, reader.body⟩, none)
    else (reader, none)
  | .ignoreStringEscape =>
    if byte = backslash then (⟨.ground, reader.body⟩, none)
    else if byte ≠ esc then (⟨.ignoreString, reader.body⟩, none)
    else (reader, none)
  | .oversizedDcs =>
    if byte = esc then (⟨.oversizedDcsEscape, reader.body⟩, none)
    else if byte = eightBitTerminator then (⟨.ground, reader.body⟩, none)
    else (reader, none)
  | .oversizedDcsEscape =>
    if byte = backslash then (⟨.ground, reader.body⟩, none)
    else if byte ≠ esc then (⟨.oversizedDcs, reader.body⟩, none)
    else (reader, none)

def maxQueryBody : Nat := 1024

/-- One round of the tracker: a body over the limit is thrown away, and the rest of its query
skipped. -/
def queryTrackerStep (reader : OscReader XtgettcapTrackerState) (byte : UInt8) :
    OscReader XtgettcapTrackerState × Option (List UInt8) :=
  let (reader, completed) := queryTrackByte reader byte
  if reader.body.length > maxQueryBody then (⟨.oversizedDcs, []⟩, completed) else (reader, completed)

structure XtgettcapResponse where
  endOffset : Nat
  bytes : List UInt8
deriving DecidableEq

structure XtgettcapQueryTracker where
  reader : OscReader XtgettcapTrackerState
  pending : List XtgettcapResponse
deriving DecidableEq

namespace XtgettcapQueryTracker

def default : XtgettcapQueryTracker := ⟨⟨.ground, []⟩, []⟩

/-- The responses that `finalize` makes for the body of a query. -/
def finalize (body : List UInt8) (endOffset : Nat) : List XtgettcapResponse :=
  (xtgettcapResponses body).map fun bytes => ⟨endOffset, bytes⟩

/-- One byte at this index of a read. -/
def observeByte (tracker : XtgettcapQueryTracker) (index : Nat) (byte : UInt8) :
    XtgettcapQueryTracker :=
  let (reader, completed) := queryTrackerStep tracker.reader byte
  { reader := reader
    pending := tracker.pending ++ completed.toList.flatMap fun body => finalize body (index + 1) }

def observe (tracker : XtgettcapQueryTracker) (bytes : List UInt8) : XtgettcapQueryTracker :=
  bytes.zipIdx.foldl (fun tracker entry => tracker.observeByte entry.2 entry.1) tracker

def drainPending (tracker : XtgettcapQueryTracker) :
    List XtgettcapResponse × XtgettcapQueryTracker :=
  (tracker.pending, { tracker with pending := [] })

/-- Observes one read after another and collects the bytes of the responses of each. -/
def respondReads (tracker : XtgettcapQueryTracker) : List (List UInt8) → List (List UInt8)
  | [] => []
  | bytes :: reads =>
    let (responses, tracker) := (tracker.observe bytes).drainPending
    responses.map (·.bytes) ++ respondReads tracker reads

end XtgettcapQueryTracker

/-! ### Streams of text and queries -/

def isPrintable (c : Char) : Bool :=
  0x20 ≤ c.toNat && c.toNat ≠ 0x7f && !(0x80 ≤ c.toNat && c.toNat ≤ 0x9f)

def joinNames (names : List (List UInt8)) : List UInt8 := [semicolon].intercalate names

inductive OutputItem
  | text (chars : List Char) (printable : ∀ c ∈ chars, isPrintable c = true)
  | query (names : List (List UInt8))
      (hex : ∀ name ∈ names, ∀ byte ∈ name, isAsciiHexdigit byte = true)
      (short : (joinNames names).length ≤ maxQueryBody)

namespace OutputItem

def bytes : OutputItem → List UInt8
  | .text chars _ => chars.flatMap String.utf8EncodeChar
  | .query names _ _ => [esc, dcsByte, plusByte, queryByte] ++ joinNames names ++ [esc, backslash]

/-- The responses for the supported names of the item. -/
def responses : OutputItem → List (List UInt8)
  | .text _ _ => []
  | .query names _ _ => names.filterMap xtgettcapResponse

end OutputItem

/-- A text byte that the tracker takes for the start of an eight-bit string. -/
def opensString (byte : UInt8) : Bool :=
  byte = eightBitDcs || byte = eightBitOsc || byte = 0x98 || byte = 0x9e || byte = 0x9f

/-- An eight-bit string: the byte that opens it, and the bytes behind. -/
structure EightBitString where
  start : UInt8
  content : List UInt8
deriving DecidableEq

/-- Text read as if it held eight-bit strings; a string that is closed is emitted. -/
def stringStep (opened : Option EightBitString) (byte : UInt8) :
    Option EightBitString × Option EightBitString :=
  match opened with
  | none => (if opensString byte then some ⟨byte, []⟩ else none, none)
  | some string =>
    if byte = eightBitTerminator then (none, some string)
    else (some ⟨string.start, string.content ++ [byte]⟩, none)

/-- The query that a closed string holds. -/
def hiddenQuery (string : EightBitString) : Option (List UInt8) :=
  match string.content with
  | plus :: letter :: body =>
    if string.start = eightBitDcs ∧ plus = plusByte ∧ letter = queryByte ∧
        body.length ≤ maxQueryBody then some body
    else none
  | _ => none

/-- The string that is open behind the items; a query closes it. -/
def openedBy (items : List OutputItem) : Option EightBitString :=
  items.foldl (fun opened item => match item with
    | .text _ _ => (scan stringStep opened item.bytes).1
    | .query _ _ _ => none) none

/-- Behind the other items, a text closes no string that holds a query of a supported name, and a
query of a supported name finds no string open. -/
def Undisturbed (seen : List OutputItem) (item : OutputItem) : Prop :=
  match item with
  | .text _ _ => ∀ string ∈ (scan stringStep (openedBy seen) item.bytes).2,
      ∀ body, hiddenQuery string = some body → xtgettcapResponses body = []
  | .query _ _ _ => item.responses = [] ∨ openedBy seen = none

end Ork3.Pane
