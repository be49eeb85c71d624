import Mathlib.Data.List.Basic

/-! Native objects that are handed to a managed language, and how often each is freed. A returned
pointer is wrapped in a proxy, which frees the object when it is finalized if it owns it; a
returned string is copied, and freed at once if its function is declared to hand it over. A native
function may free what it is given, and the proxy that is passed may be declared to give up
ownership. The declarations and what the functions do are kept apart. -/

namespace TypeDBDriver.Library

inductive ProxyPhase where
  | owning
  | borrowing
  | finalized
  deriving DecidableEq, Repr

namespace ProxyPhase

def isAlive : ProxyPhase → Bool
  | .owning | .borrowing => true
  | .finalized => false

def isOwning : ProxyPhase → Bool
  | .owning => true
  | .borrowing | .finalized => false

end ProxyPhase

/-- What was freed: once for each function that took the object, and once more by the proxy, or
after the copy, if ownership was declared and never given up. -/
def Accounted (declared disowned : Bool) (taken freed : Nat) : Option ProxyPhase → Prop
  | some .owning => declared = true ∧ disowned = false ∧ freed = taken
  | some .borrowing => (declared && !disowned) = false ∧ freed = taken
  | some .finalized | none => freed = taken + (declared && !disowned).toNat

structure NativeCell (Native : Type) where
  content : Native
  /-- A string that was copied has none. -/
  proxy : Option ProxyPhase
  freed : Nat
  -- history
  /-- The function that returned it is declared to hand over ownership. -/
  declared : Bool
  disowned : Bool
  taken : Nat
  accounted : Accounted declared disowned taken freed proxy

namespace NativeCell

variable {Native : Type}

def wrapped (content : Native) (declared : Bool) : NativeCell Native where
  content
  proxy := some (if declared then .owning else .borrowing)
  freed := 0
  declared
  disowned := false
  taken := 0
  accounted := by
    cases declared with
    | true => exact ⟨rfl, rfl, rfl⟩
    | false => exact ⟨rfl, rfl⟩

def copied (content : Native) (declared : Bool) : NativeCell Native where
  content
  proxy := none
  freed := declared.toNat
  declared
  disowned := false
  taken := 0
  accounted := by cases declared <;> rfl

def isAlive (cell : NativeCell Native) : Bool := cell.proxy.any (·.isAlive)

theorem accounted_pass (cell : NativeCell Native) (disowns takes : Bool) :
    Accounted cell.declared (cell.disowned || (cell.isAlive && disowns))
      (cell.taken + takes.toNat) (cell.freed + takes.toNat)
      (if cell.isAlive && disowns then some .borrowing else cell.proxy) := by
  have accounted := cell.accounted
  unfold isAlive
  cases proxy : cell.proxy with
  | none =>
    rw [proxy] at accounted
    change cell.freed = _ at accounted
    simp [Accounted, accounted, Nat.add_right_comm]
  | some phase =>
    rw [proxy] at accounted
    cases phase with
    | owning =>
      obtain ⟨declared, disowned, freed⟩ := accounted
      cases disowns <;> simp [Accounted, ProxyPhase.isAlive, declared, disowned, freed]
    | borrowing =>
      obtain ⟨unowned, freed⟩ := accounted
      cases disowns <;> simp_all [Accounted, ProxyPhase.isAlive]
    | finalized =>
      change cell.freed = _ at accounted
      simp [Accounted, ProxyPhase.isAlive, accounted, Nat.add_right_comm]

def pass (cell : NativeCell Native) (disowns takes : Bool) (content : Native) :
    NativeCell Native where
  content
  proxy := if cell.isAlive && disowns then some .borrowing else cell.proxy
  freed := cell.freed + takes.toNat
  declared := cell.declared
  disowned := cell.disowned || (cell.isAlive && disowns)
  taken := cell.taken + takes.toNat
  accounted := cell.accounted_pass disowns takes

theorem accounted_finalize (cell : NativeCell Native) :
    Accounted cell.declared cell.disowned cell.taken
      (cell.freed + (cell.proxy.any (·.isOwning)).toNat) (cell.proxy.map fun _ => .finalized) := by
  have accounted := cell.accounted
  cases proxy : cell.proxy with
  | none =>
    rw [proxy] at accounted
    exact accounted
  | some phase =>
    rw [proxy] at accounted
    cases phase with
    | owning =>
      obtain ⟨declared, disowned, freed⟩ := accounted
      simp [Accounted, ProxyPhase.isOwning, declared, disowned, freed]
    | borrowing =>
      obtain ⟨unowned, freed⟩ := accounted
      simp only [Accounted, Option.map_some, unowned, freed]
      rfl
    | finalized => exact accounted

def finalize (cell : NativeCell Native) : NativeCell Native where
  content := cell.content
  proxy := cell.proxy.map fun _ => .finalized
  freed := cell.freed + (cell.proxy.any (·.isOwning)).toNat
  declared := cell.declared
  disowned := cell.disowned
  taken := cell.taken
  accounted := cell.accounted_finalize

theorem freed_of_not_isAlive {cell : NativeCell Native} (gone : cell.isAlive = false) :
    cell.freed = cell.taken + (cell.declared && !cell.disowned).toNat := by
  have accounted := cell.accounted
  unfold isAlive at gone
  cases proxy : cell.proxy with
  | none =>
    rw [proxy] at accounted
    exact accounted
  | some phase =>
    rw [proxy] at accounted gone
    cases phase with
    | owning | borrowing => cases gone
    | finalized => exact accounted

end NativeCell

end TypeDBDriver.Library
