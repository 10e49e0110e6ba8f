import HostHealth.Toml.Scalar

/- Reading TOML documents: lines with a header or a key and its value, comments and empty lines
   between them. A text is read as a whole or not at all. -/
namespace HostHealth.Toml

open Text Scalar

namespace Reader

def skipFiller : (inComment : Bool) → List Char → List Char
  | true, '\r' :: '\n' :: rest => skipFiller false rest
  | true, c :: rest =>
    if c = '\n' then skipFiller false rest
    else if isPlain c then skipFiller true rest
    else c :: rest
  | false, '\r' :: '\n' :: rest => skipFiller false rest
  | false, c :: rest =>
    if c = ' ' ∨ c = '\t' ∨ c = '\n' then skipFiller false rest
    else if c = '#' then skipFiller true rest
    else c :: rest
  | _, [] => []

mutual

/-- One value at the front of the text. `room` is how deep it may go; each call takes at least
    one character, so as much fuel as characters is enough. -/
def value (fuel room : Nat) (chars : List Char) : Option (Toml × List Char) :=
  match fuel, chars with
  | 0, _ => none
  | fuel + 1, '[' :: rest =>
    if room = 0 then none
    else match skipFiller false rest with
      | ']' :: rest => some (.array [], rest)
      | rest => (items fuel (room - 1) rest).map fun (found, rest) => (.array found, rest)
  | fuel + 1, '\x7b' :: rest =>
    if room = 0 then none
    else match skipBlanks rest with
      | '\x7d' :: rest => some (.table .closed [], rest)
      | rest => (pairs fuel (room - 1) [] rest).map fun (found, rest) =>
          (.table .closed found, rest)
  | _, 't' :: 'r' :: 'u' :: 'e' :: rest => some (.bool true, rest)
  | _, 'f' :: 'a' :: 'l' :: 's' :: 'e' :: rest => some (.bool false, rest)
  | _, chars =>
    ((string chars).map fun (found, rest) => (.text found, rest))
      <|> calendar chars <|> number chars

def items (fuel room : Nat) (chars : List Char) : Option (List Toml × List Char) :=
  match fuel with
  | 0 => none
  | fuel + 1 => do
    let (item, rest) ← value fuel room chars
    match skipFiller false rest with
    | ']' :: rest => return ([item], rest)
    | ',' :: rest =>
      match skipFiller false rest with
      | ']' :: rest => return ([item], rest)
      | rest =>
        let (more, rest) ← items fuel room rest
        return (item :: more, rest)
    | _ => none

def pairs (fuel room : Nat) (entries : Entries) (chars : List Char) :
    Option (Entries × List Char) :=
  match fuel with
  | 0 => none
  | fuel + 1 => do
    let ((path, name), rest) ← key chars
    match rest with
    | '=' :: rest =>
      let (item, rest) ← value fuel room (skipBlanks rest)
      let entries ← assign path name item .closed entries
      match skipBlanks rest with
      | '\x7d' :: rest => return (entries, rest)
      | ',' :: rest => pairs fuel room entries rest
      | _ => none
    | _ => none

end

def lineEnd (chars : List Char) : Option (List Char) :=
  let chars := match skipBlanks chars with
    | '#' :: rest => rest.dropWhile isPlain
    | rest => rest
  match chars with
  | [] => some []
  | chars => newline? chars

/-- A document as far as it is read: the header that was opened last, and all entries. -/
structure Draft where
  header : List String
  entries : Entries

def Draft.empty : Draft := ⟨[], []⟩

/-- One line without the blanks at its front. Keys stand below the header before them. -/
def line (draft : Draft) (chars : List Char) : Option (Draft × List Char) :=
  match chars with
  | '[' :: '[' :: rest => do
    let ((path, name), rest) ← key rest
    match rest with
    | ']' :: ']' :: rest =>
      let entries ← openRow path name .header draft.entries
      return (⟨path ++ [name], entries⟩, ← lineEnd rest)
    | _ => none
  | '[' :: rest => do
    let ((path, name), rest) ← key rest
    match rest with
    | ']' :: rest =>
      let entries ← openTable path name .header draft.entries
      return (⟨path ++ [name], entries⟩, ← lineEnd rest)
    | _ => none
  | chars => do
    let ((path, name), rest) ← key chars
    match rest with
    | '=' :: rest =>
      let (item, rest) ← value (chars.length + 1) maxDepth (skipBlanks rest)
      let entries ← assignBelow draft.header path name item .header draft.entries
      return (⟨draft.header, entries⟩, ← lineEnd rest)
    | _ => none

def lines (fuel : Nat) (draft : Draft) (chars : List Char) : Option Entries :=
  match fuel, skipBlanks chars with
  | _, [] => some draft.entries
  | 0, _ => none
  | fuel + 1, '#' :: rest => do lines fuel draft (← lineEnd ('#' :: rest))
  | fuel + 1, rest =>
    match newline? rest with
    | some rest => lines fuel draft rest
    | none => do
      let (draft, rest) ← line draft rest
      lines fuel draft rest

end Reader

/-- The entries of a document. A byte order mark may come first. -/
def read (text : String) : Option Entries :=
  let chars := match text.toList with
    | '\uFEFF' :: rest => rest
    | rest => rest
  Reader.lines (chars.length + 1) .empty chars

end HostHealth.Toml
