import ClassLocator.Text.Basic

/-!
# Unpacked data

What comes of packed data. Deflated data is unpacked here; for data in other packings there are
libraries, which are taken as they are.
-/

namespace ClassLocator

/-- What packed data expands to. -/
structure Unpacked where
  output : Bytes
  /-- Whether the data tells that it has come to its end. -/
  isComplete : Bool
deriving Repr

/-- The libraries for bzip2 and for LZMA. Data that is no such data gives nothing at all. -/
structure Unpackers where
  bzip2 : Bytes → Option Unpacked := fun _ => none
  lzma : Bytes → Option Unpacked := fun _ => none

end ClassLocator
