import ListingRules.Toml.Quoted
import ListingRules.Toml.Scalar
import ListingRules.Toml.Table

namespace ListingRules.Toml

open TextReader

structure Tables where
  entries : Entries := []
  header : List Text := []
  deriving Repr

variable {σ : Type}

def skipBlanks : Reader σ Unit :=
  discard (TextReader.takeWhile Text.isSpaceOrTab)

def skipComment : Reader σ Unit := do
  if ← accept "#" then discard (TextReader.takeWhile fun c => !isControl c)

def skipLines : Nat → Reader σ Unit
  | 0 => return
  | n + 1 => do
      skipBlanks
      skipComment
      if ← acceptLineEnd then skipLines n

def skipAllLines : Reader σ Unit := do
  skipLines ((← rest).length + 1)

def simpleKey : Reader σ Text := do
  match ← peek? with
  | some '"' => quotedLine '"'
  | some '\'' => quotedLine '\''
  | _ =>
      let key ← TextReader.takeWhile fun c => c.isAlphanum || c == '_' || c == '-'
      guard !key.isEmpty
      return key

def keyParts : Nat → Reader σ (List Text)
  | 0 => failure
  | n + 1 => do
      skipBlanks
      let key ← simpleKey
      skipBlanks
      if ← accept "." then return key :: (← keyParts n) else return [key]

def key : Reader σ (List Text) := do
  keyParts ((← rest).length + 1)

def bareValue : Reader σ Node := do
  let isPart (c : Char) := c.isAlphanum || ['+', '-', '_', '.', ':'].contains c
  let first ← TextReader.takeWhile isPart
  let isTimeNext := afterDate? first == some [] && (← peek?) == some ' ' &&
    (← peekSecond?).any Char.isDigit
  let second ← if isTimeNext then
      discard take
      pure (' ' :: (← TextReader.takeWhile isPart))
    else pure []
  guard (isScalar (first ++ second))
  return .scalar

mutual

def value : Nat → Reader σ Node
  | 0 => failure
  | depth + 1 => do
      match ← peek? with
      | some '"' => .text <$> quoted '"'
      | some '\'' => .text <$> quoted '\''
      | some '[' =>
          discard take
          .list <$> items depth
      | some '\x7b' =>
          discard take
          .table .braces <$> fields depth []
      | _ => bareValue

def items : Nat → Reader σ (List Node)
  | 0 => failure
  | depth + 1 => do
      skipAllLines
      if ← accept "]" then return []
      let first ← value depth
      skipAllLines
      if ← accept "," then return first :: (← items depth)
      expect "]"
      return [first]

def fields : Nat → Entries → Reader σ Entries
  | 0, _ => failure
  | depth + 1, es => do
      skipAllLines
      if ← accept "\x7d" then return es
      let path ← key
      expect "="
      skipBlanks
      let v ← value depth
      let es ← es.insertAt path v
      skipAllLines
      if ← accept "," then fields depth es
      else
        expect "\x7d"
        return es

end

def statement : Reader Tables Unit := do
  let t ← memory
  if ← accept "[[" then
    let path ← key
    expect "]]"
    setMemory ⟨← t.entries.addTable path, path⟩
  else if ← accept "[" then
    let path ← key
    expect "]"
    setMemory ⟨← t.entries.openTable path, path⟩
  else
    let path ← key
    expect "="
    skipBlanks
    let v ← value (2 * (← rest).length + 2)
    setMemory { t with entries := ← t.entries.edit false t.header (·.insertAt path v) }

def statements : Nat → Reader Tables Unit
  | 0 => return
  | n + 1 => do
      skipAllLines
      if (← rest).isEmpty then return
      statement
      skipBlanks
      skipComment
      if (← rest).isEmpty then return
      guard (← acceptLineEnd)
      statements n

def parse? (document : Text) : Option Entries :=
  let text := if document.head? == some '\ufeff' then document.drop 1 else document
  ((statements (text.length + 1)).readAll text {}).map (·.2.entries)

end ListingRules.Toml
