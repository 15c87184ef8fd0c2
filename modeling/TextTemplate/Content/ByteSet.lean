/-
  Sets of bytes, one truth value for each of the 256 bytes,
  so that sets with the same members are equal.

  Key definitions include:
    * `ByteSet.ofList`
    * `ByteSet.contains`
    * `ByteSet.toList`
-/

------------------------------------------------------------
-- Byte Sets
------------------------------------------------------------

namespace TextTemplate

/- A set of bytes. -/
structure ByteSet where
  members : Vector Bool 256
  deriving DecidableEq

namespace ByteSet

/- Whether a byte belongs to a set. -/
def contains
    (set : ByteSet)
    (byte : UInt8) : Bool :=
  have hByte := byte.toNat_lt
  set.members[byte.toNat]

instance : Membership UInt8 ByteSet where
  mem set byte := set.contains byte = true

/- The set of the bytes in a list. -/
def ofList
    (bytes : List UInt8) : ByteSet :=
  ⟨Vector.ofFn fun index =>
    bytes.contains (UInt8.ofNat index.val)⟩

/- All bytes, in ascending order. -/
def allBytes : List UInt8 :=
  (List.range 256).map UInt8.ofNat

/- The bytes of a set, in ascending order. -/
def toList
    (set : ByteSet) : List UInt8 :=
  allBytes.filter set.contains

end ByteSet

end TextTemplate

------------------------------------------------------------
-- Laws
------------------------------------------------------------

namespace TextTemplate

namespace ByteSet

/- The set of a list has the bytes of the list. -/
theorem contains_ofList
    (bytes : List UInt8)
    (byte : UInt8) :
    (ofList bytes).contains byte =
      bytes.contains byte := by
  simp [contains, ofList]

/- Sets with the same bytes are equal. -/
theorem ext
    {left right : ByteSet}
    (hSame :
      ∀ byte, left.contains byte = right.contains byte) :
    left = right := by
  cases left with
  | mk left =>
      cases right with
      | mk right =>
          congr 1
          apply Vector.ext
          intro index hIndex
          have hByte := hSame (UInt8.ofNat index)
          have hNat : (UInt8.ofNat index).toNat = index :=
            UInt8.toNat_ofNat_of_lt hIndex
          simpa [contains, hNat] using hByte

end ByteSet

end TextTemplate
