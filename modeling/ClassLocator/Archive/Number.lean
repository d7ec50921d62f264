import ClassLocator.Text.Basic

/-!
# Numbers in archives

Whole numbers stand in the records of an archive with their least byte first.
-/

namespace ClassLocator.Archive

/-- The number whose bytes these are, the least one first. -/
def number : Bytes → Nat
  | [] => 0
  | b :: rest => b.toNat + 256 * number rest

@[simp] theorem number_nil : number [] = 0 := rfl

@[simp] theorem number_cons (b : UInt8) (rest : Bytes) :
    number (b :: rest) = b.toNat + 256 * number rest := rfl

/-- The field of a record that begins at `offset` and is `width` bytes wide. -/
def field (record : Bytes) (offset width : Nat) : Nat := number ((record.drop offset).take width)

end ClassLocator.Archive
