import DreamHeroes.SqlRows

/- The rows of a statement with several of them, as in `values (..),(..)`, as text and as what it
   is read as. -/
namespace SqlTuples

open ByteWords SqlLiterals SqlRows

/-- The values up to the closing bracket, and what follows it. -/
def readTupleValues : Nat → Bytes → Option (List Value × Bytes)
  | 0, _ => none
  | fuel + 1, sql =>
      match readValue sql with
      | some (value, b :: rest) =>
          if b = comma then
            (readTupleValues fuel (rest.dropWhile (· = blank))).map fun read =>
              (value :: read.1, read.2)
          else if b = closing then some ([value], rest)
          else none
      | _ => none

def readTuple : Bytes → Option (List Value × Bytes)
  | [] => none
  | b :: rest => if b = opening then readTupleValues rest.length rest else none

/-- The rows up to the end of the text. -/
def readTuples : Nat → Bytes → Option (List (List Value))
  | 0, _ => none
  | fuel + 1, sql =>
      match readTuple sql with
      | none => none
      | some (values, []) => some [values]
      | some (values, b :: rest) =>
          if b = comma then (readTuples fuel rest).map (values :: ·) else none

/-- A row that is read back. -/
structure Whole (values : List Value) : Prop where
  literal : ∀ value ∈ values, Literal value
  filled : values ≠ []

variable {values : List Value} {rows : List (List Value)} {later : Bytes} {fuel : Nat} {b : UInt8}

end SqlTuples
