import Armd64.Rtl.Basic

/-!
# ABI signature slots

`poly_abi_signature_slots` caches a signature kind and a register map for each of 13 slots.
-/

namespace Poly

structure AbiSlot where
  kind : BitVec 8
  map : BitVec 32
  deriving DecidableEq, Repr

structure AbiSignatureSlots where
  slots : Vector AbiSlot 13
  setOk : Bool
  setError : Bool
  deriving DecidableEq, Repr

structure AbiSignatureSet where
  set : Bool
  setSlot : BitVec 4
  setKind : BitVec 8
  setMap : BitVec 32

namespace AbiSignatureSlots

def validSlot (slot : BitVec 4) : Bool := slot.ult 13#4

def validKind (kind : BitVec 8) : Bool := kind.ule 28#8

def registerMapFlagTlsBase : BitVec 32 := 0x80000000#32

def validMap (map : BitVec 32) : Bool :=
  let mapWithoutTls := map &&& ~~~registerMapFlagTlsBase
  mapWithoutTls.extractLsb' 7 25 == 0#25 && (mapWithoutTls.extractLsb' 0 7).ule 27#7

def resetSlots : Vector AbiSlot 13 :=
  #v[⟨0, 0⟩, ⟨2, 1⟩, ⟨3, 2⟩, ⟨4, 3⟩, ⟨5, 4⟩, ⟨6, 5⟩, ⟨7, 6⟩, ⟨8, 7⟩, ⟨9, 8⟩, ⟨10, 9⟩, ⟨11, 10⟩,
    ⟨12, 11⟩, ⟨26, 25⟩]

def resetState : AbiSignatureSlots := ⟨resetSlots, false, false⟩

variable (a : AbiSignatureSlots)

/-- The selected slot; an index outside the array is masked by `selectValid`. -/
def selected (slot : BitVec 4) : AbiSlot := a.slots[slot.toNat]?.getD ⟨0, 0⟩

def selectValid (slot : BitVec 4) : Bool := validSlot slot

def selectKind (slot : BitVec 4) : BitVec 8 := if validSlot slot then (a.selected slot).kind else 0

def selectMap (slot : BitVec 4) : BitVec 7 :=
  if validSlot slot then (a.selected slot).map.extractLsb' 0 7 else 0

def selectTlsBase (slot : BitVec 4) : Bool :=
  validSlot slot && (a.selected slot).map &&& registerMapFlagTlsBase != 0#32

def step (r : AbiSignatureSet) : AbiSignatureSlots :=
  let idle := { a with setOk := false, setError := false }
  if r.set then
    if !validSlot r.setSlot || !validKind r.setKind || !validMap r.setMap then
      { idle with setError := true }
    else { idle with
      slots := a.slots.setIfInBounds r.setSlot.toNat ⟨r.setKind, r.setMap⟩, setOk := true }
  else idle

end AbiSignatureSlots

end Poly
