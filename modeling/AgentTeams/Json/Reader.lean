import AgentTeams.Json.Tree

/-!
From text to tree. Blanks are the four that JSON knows. After a fault nothing more is read.
-/
namespace AgentTeams.Json

private def isBlank (c : Char) : Bool :=
  c == ' ' || c == '\n' || c == '\t' || c == '\r'

def skipBlanks (text : List Char) : List Char :=
  text.dropWhile isBlank

/-- A piece of a string literal: a character, or a unit of UTF-16 that was escaped by number. -/
inductive Piece where
  | char (c : Char)
  | unit (value : Nat)
deriving DecidableEq

private def hexValue? (c : Char) : Option Nat :=
  if c.isDigit then some (c.toNat - '0'.toNat)
  else if 'a' ≤ c ∧ c ≤ 'f' then some (c.toNat - 'a'.toNat + 10)
  else if 'A' ≤ c ∧ c ≤ 'F' then some (c.toNat - 'A'.toNat + 10)
  else none

private def hexUnit? (a b c d : Char) : Option Nat := do
  return (((← hexValue? a) * 16 + (← hexValue? b)) * 16 + (← hexValue? c)) * 16 + (← hexValue? d)

private def escaped? : Char → Option Char
  | '"' => some '"'
  | '\\' => some '\\'
  | '/' => some '/'
  | 'b' => some '\x08'
  | 'f' => some '\x0c'
  | 'n' => some '\n'
  | 'r' => some '\r'
  | 't' => some '\t'
  | _ => none

/-- The pieces of a string literal after its opening quote, and the text after its closing one. -/
def readPieces : List Char → Option (List Piece × List Char)
  | [] => none
  | '"' :: rest => some ([], rest)
  | '\\' :: 'u' :: a :: b :: c :: d :: rest => do
      let value ← hexUnit? a b c d
      let (pieces, rest) ← readPieces rest
      return (.unit value :: pieces, rest)
  | '\\' :: c :: rest => do
      let char ← escaped? c
      let (pieces, rest) ← readPieces rest
      return (.char char :: pieces, rest)
  | c :: rest =>
      if c = '\\' ∨ c.toNat < 0x20 then none
      else do
        let (pieces, rest) ← readPieces rest
        return (.char c :: pieces, rest)

/-- Join the pieces to characters. A surrogate unit counts only as half of a pair. -/
def joinPieces : List Piece → Option (List Char)
  | [] => some []
  | .char c :: rest => do return c :: (← joinPieces rest)
  | .unit value :: rest =>
      if value < 0xd800 ∨ 0xdfff < value then do return Char.ofNat value :: (← joinPieces rest)
      else if value < 0xdc00 then
        match rest with
        | .unit low :: rest =>
            if 0xdc00 ≤ low ∧ low ≤ 0xdfff then do
              let c := Char.ofNat (0x10000 + (value - 0xd800) * 0x400 + (low - 0xdc00))
              return c :: (← joinPieces rest)
            else none
        | _ => none
      else none

private def pieceText (pieces : List Piece) : Option String :=
  (joinPieces pieces).map String.ofList

/-- A tree that was read, and the text after it unless a fault was met. -/
abbrev Reading := Tree × Option (List Char)

private def readWord (word : String) (tree : Tree) (text : List Char) : Reading :=
  let letters := word.toList
  if letters.isPrefixOf text then (tree, some (text.drop letters.length)) else (.broken, none)

private def readNumber (text : List Char) : Reading :=
  match Numeral.read text with
  | some (numeral, rest) => (.num numeral.value?, some rest)
  | none => (.broken, none)

private def bury (depth : Nat) (tree : Tree) : Tree :=
  if Tree.depthLimit < depth then .buried tree else tree

mutual
/-- Read a value inside `depth` arrays and objects. The last argument bounds the steps; the length
of the text is enough. -/
def readValue (depth : Nat) (text : List Char) : Nat → Reading
  | 0 => (.broken, none)
  | fuel + 1 =>
      match skipBlanks text with
      | [] => (.broken, none)
      | '"' :: rest =>
          match readPieces rest with
          | some (pieces, rest) => (.str (pieceText pieces), some rest)
          | none => (.broken, none)
      | '[' :: rest =>
          let (items, closing, rest) := match skipBlanks rest with
            | ']' :: rest => ([], Closing.met, some rest)
            | rest => readItems (depth + 1) rest fuel
          (bury depth (.arr items closing), rest)
      | '\x7b' :: rest =>
          let (members, closing, rest) := match skipBlanks rest with
            | '\x7d' :: rest => ([], Closing.met, some rest)
            | rest => readMembers (depth + 1) rest fuel
          (bury depth (.obj members closing), rest)
      | 'n' :: rest => readWord "null" .null ('n' :: rest)
      | 't' :: rest => readWord "true" (.bool true) ('t' :: rest)
      | 'f' :: rest => readWord "false" (.bool false) ('f' :: rest)
      | rest => readNumber rest

/-- Read the items of an array that has at least one more. -/
def readItems (depth : Nat) (text : List Char) :
    Nat → List Tree × Closing × Option (List Char)
  | 0 => ([], .missing, none)
  | fuel + 1 =>
      match readValue depth text fuel with
      | (item, none) => ([item], .missing, none)
      | (item, some rest) =>
          match skipBlanks rest with
          | ']' :: rest => ([item], .met, some rest)
          | ',' :: rest =>
              let (items, closing, rest) := readItems depth rest fuel
              (item :: items, closing, rest)
          | _ => ([item], .missing, none)

/-- Read the members of an object that has at least one more. -/
def readMembers (depth : Nat) (text : List Char) :
    Nat → List (Option String × Tree) × Closing × Option (List Char)
  | 0 => ([], .missing, none)
  | fuel + 1 =>
      match skipBlanks text with
      | '"' :: rest =>
          match readPieces rest with
          | none => ([], .missing, none)
          | some (pieces, rest) =>
              let key := pieceText pieces
              let (value, rest) := match skipBlanks rest with
                | ':' :: rest => readValue depth rest fuel
                | _ => (.broken, none)
              match rest with
              | none => ([(key, value)], .missing, none)
              | some rest =>
                  match skipBlanks rest with
                  | '\x7d' :: rest => ([(key, value)], .met, some rest)
                  | ',' :: rest =>
                      let (members, closing, rest) := readMembers depth rest fuel
                      ((key, value) :: members, closing, rest)
                  | _ => ([(key, value)], .missing, none)
      | _ => ([], .missing, none)
end

/-- The tree of a whole text, and whether anything but blanks follows it. -/
def Tree.ofText (text : String) : Tree × Bool :=
  let characters := text.toList
  match readValue 0 characters (2 * characters.length + 2) with
  | (tree, none) => (tree, false)
  | (tree, some rest) => (tree, !(skipBlanks rest).isEmpty)

/-- The stored form of a text that holds one value. -/
def ofText? (text : String) : Option Json :=
  match Tree.ofText text with
  | (tree, false) => tree.toJson?
  | (_, true) => none

end AgentTeams.Json
