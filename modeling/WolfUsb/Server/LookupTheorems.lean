/-
WolfUsb.Server.LookupTheorems — the entry of `/sys/bus/usb/devices` for a
bus and an address.

`read_dir` lists in no order, so a property of the lookup is one of every
order. An entry whose number cannot be read is taken for number 0, and
that is all that can go wrong (`lookup_exact_iff`): without such an entry
the loop finds an entry exactly if one matches.
-/
import Mathlib.Data.List.Perm.Basic
import WolfUsb.Server.Sysfs

namespace WolfUsb.KernelUsbip

open Lib

/-! ## Names -/

theorem isDeviceName_sysfsBusid (bus : UInt8) (path : String) :
    isDeviceName (sysfsBusid bus path) = true ↔ ':' ∉ (sysfsBusid bus path).toList := by
  simp [isDeviceName, sysfsBusid]

theorem toList_toString (bus : UInt8) : (toString bus).toList = Nat.toDigits 10 bus.toNat :=
  Nat.toList_repr

/-- A busid starts with a digit: it is not a root hub's name. -/
theorem not_rootHub (bus : UInt8) (path : String) :
    ¬ "usb".toList <+: (sysfsBusid bus path).toList := by
  obtain ⟨c, digits, hdigits⟩ :=
    List.exists_cons_of_ne_nil (Nat.toDigits_ne_nil (b := 10) (n := bus.toNat))
  have hc : c.isDigit = true :=
    isDigit_of_mem_toString (n := bus.toNat) (by simp [Nat.toList_repr, hdigits])
  have hlist : (sysfsBusid bus path).toList = c :: (digits ++ ("-" ++ path).toList) := by
    simp [sysfsBusid, toList_toString, hdigits]
  rw [hlist]
  intro hprefix
  obtain ⟨rfl, -⟩ := List.cons_prefix_cons.mp hprefix
  exact absurd hc (by decide)

/-! ## Entries -/

namespace Sysfs

variable (sysfs : Sysfs) (bus address : UInt8)

/-- The entry is neither an interface nor a root hub, and its `busnum` and
`devnum` are these. -/
structure Matches (name : String) : Prop where
  interface : ':' ∉ name.toList
  rootHub : ¬ "usb".toList <+: name.toList
  busnum : sysfs.readSysfsU32 name "busnum" = some bus.toUInt32
  devnum : sysfs.readSysfsU32 name "devnum" = some address.toUInt32

/-- The entry is taken for the address, and a number of it that is 0 for
the loop cannot be read. -/
structure Defaulted (name : String) : Prop where
  interface : ':' ∉ name.toList
  hasAddress : sysfs.hasAddress name bus address = true
  unreadable : sysfs.readSysfsU32 name "busnum" = none ∨ sysfs.readSysfsU32 name "devnum" = none

/-- The same directory, listed in an order. -/
def listing (order : List (Option String)) : Sysfs := { sysfs with entries := .ok order }

end Sysfs

section

variable {sysfs : Sysfs} {bus address : UInt8} {path : String}

/-- An entry that matches is taken for the address. -/
theorem Sysfs.Matches.hasAddress {name : String} (h : sysfs.Matches bus address name) :
    sysfs.hasAddress name bus address = true := by
  simp [Sysfs.hasAddress, h.busnum, h.devnum]

/-- Nothing else is, if the numbers can be read. -/
theorem matches_of_hasAddress (hcolon : ':' ∉ (sysfsBusid bus path).toList)
    (haddress : sysfs.hasAddress (sysfsBusid bus path) bus address = true)
    (hno : ¬ sysfs.Defaulted bus address (sysfsBusid bus path)) :
    sysfs.Matches bus address (sysfsBusid bus path) := by
  have hread := haddress
  simp only [Sysfs.hasAddress, Bool.and_eq_true, beq_iff_eq] at hread
  obtain ⟨hbus, hdev⟩ := hread
  refine ⟨hcolon, not_rootHub bus path, ?_, ?_⟩
  · cases hb : sysfs.readSysfsU32 (sysfsBusid bus path) "busnum" with
    | none => exact absurd ⟨hcolon, haddress, Or.inl hb⟩ hno
    | some n =>
      rw [hb, Option.getD_some] at hbus
      rw [hbus]
  · cases hd : sysfs.readSysfsU32 (sysfsBusid bus path) "devnum" with
    | none => exact absurd ⟨hcolon, haddress, Or.inr hd⟩ hno
    | some n =>
      rw [hd, Option.getD_some] at hdev
      rw [hdev]

/-! ## The loop -/

/-- An entry that is taken, and has the bus in its name, ends the loop. -/
theorem findPortPath_cons (hcolon : ':' ∉ (sysfsBusid bus path).toList)
    (haddress : sysfs.hasAddress (sysfsBusid bus path) bus address = true)
    (rest : List (Option String)) :
    sysfs.findPortPath bus address (some (sysfsBusid bus path) :: rest) = some path := by
  have hstrip : stripPrefix (toString bus ++ "-") (sysfsBusid bus path) = some path :=
    stripPrefix_eq_some.mpr rfl
  rw [Sysfs.findPortPath, (isDeviceName_sysfsBusid bus path).mpr hcolon, haddress, Bool.and_self,
    if_pos rfl, hstrip]

/-- The loop does not pass over such an entry. -/
theorem findPortPath_isSome {order : List (Option String)}
    (hmem : some (sysfsBusid bus path) ∈ order) (hcolon : ':' ∉ (sysfsBusid bus path).toList)
    (haddress : sysfs.hasAddress (sysfsBusid bus path) bus address = true) :
    (sysfs.findPortPath bus address order).isSome = true := by
  induction order with
  | nil => cases hmem
  | cons entry rest ih =>
    rcases List.mem_cons.mp hmem with rfl | hrest
    · rw [findPortPath_cons hcolon haddress]
      rfl
    · cases entry with
      | none => exact ih hrest
      | some name =>
        rw [Sysfs.findPortPath]
        split
        · split
          · rfl
          · exact ih hrest
        · exact ih hrest

/-- The loop reads the files, whatever the order. -/
theorem findPortPath_listing (sysfs : Sysfs) (bus address : UInt8)
    (order entries : List (Option String)) :
    (sysfs.listing order).findPortPath bus address entries
      = sysfs.findPortPath bus address entries := by
  induction entries with
  | nil => rfl
  | cons entry rest ih =>
    cases entry with
    | none => exact ih
    | some name =>
      rw [Sysfs.findPortPath, Sysfs.findPortPath, ih]
      rfl

/-- What the lookup returns is what the loop finds. -/
theorem portPathForAddress_listing (sysfs : Sysfs) (bus address : UInt8)
    (order : List (Option String)) :
    portPathForAddress (sysfs.listing order) bus address =
      match sysfs.findPortPath bus address order with
      | some path => .ok path
      | none => .error ["no sysfs device matches bus=" ++ toString bus ++
          " address=" ++ toString address] := by
  rw [← findPortPath_listing sysfs bus address order order]
  rfl

theorem findPortPath_of_ok {order : List (Option String)}
    (h : portPathForAddress (sysfs.listing order) bus address = .ok path) :
    sysfs.findPortPath bus address order = some path := by
  rw [portPathForAddress_listing] at h
  split at h
  · rename_i found hfound
    obtain rfl := Except.ok.inj h
    exact hfound
  · cases h

end

/-! ## The lookup -/

/-- The lookup in a listing, in whatever order: it finds an entry that
matches, fails only if none matches, and if at most one does, its result
does not depend on the order. -/
structure LooksUp (sysfs : Sysfs) (bus address : UInt8) (entries : List (Option String)) :
    Prop where
  sound : ∀ order, order.Perm entries → ∀ path,
    portPathForAddress (sysfs.listing order) bus address = .ok path →
      some (sysfsBusid bus path) ∈ entries ∧ sysfs.Matches bus address (sysfsBusid bus path)
  complete : ∀ order, order.Perm entries → ∀ e,
    portPathForAddress (sysfs.listing order) bus address = .error e →
      ∀ path, some (sysfsBusid bus path) ∈ entries →
        ¬ sysfs.Matches bus address (sysfsBusid bus path)
  stable : (∀ p q, some (sysfsBusid bus p) ∈ entries → some (sysfsBusid bus q) ∈ entries →
      sysfs.Matches bus address (sysfsBusid bus p) →
        sysfs.Matches bus address (sysfsBusid bus q) → p = q) →
    ∀ order order', order.Perm entries → order'.Perm entries →
      portPathForAddress (sysfs.listing order) bus address
        = portPathForAddress (sysfs.listing order') bus address

variable {sysfs : Sysfs} {bus address : UInt8} {entries order : List (Option String)}

/-- Where every number that counts can be read, the loop finds an entry
that matches. -/
theorem findPortPath_matches (hno : ∀ path, some (sysfsBusid bus path) ∈ entries →
      ¬ sysfs.Defaulted bus address (sysfsBusid bus path))
    (hperm : order.Perm entries) {path : String}
    (h : sysfs.findPortPath bus address order = some path) :
    some (sysfsBusid bus path) ∈ entries ∧ sysfs.Matches bus address (sysfsBusid bus path) := by
  obtain ⟨hmem, hname, haddress⟩ := Sysfs.findPortPath_sound h
  have hlisted := hperm.mem_iff.mp hmem
  have hcolon := (isDeviceName_sysfsBusid bus path).mp hname
  exact ⟨hlisted, matches_of_hasAddress hcolon haddress (hno path hlisted)⟩

/-- And it passes over no entry that matches. -/
theorem findPortPath_none (hperm : order.Perm entries)
    (h : sysfs.findPortPath bus address order = none) {path : String}
    (hmem : some (sysfsBusid bus path) ∈ entries) :
    ¬ sysfs.Matches bus address (sysfsBusid bus path) := by
  intro hmatch
  have hsome := findPortPath_isSome (hperm.mem_iff.mpr hmem) hmatch.interface hmatch.hasAddress
  rw [h] at hsome
  cases hsome

/-- **The lookup is sound, complete and independent of the order** exactly
if no listed entry of the bus is taken for the address because a number of
it cannot be read. -/
theorem lookup_exact_iff (sysfs : Sysfs) (bus address : UInt8) (entries : List (Option String)) :
    LooksUp sysfs bus address entries ↔
      ∀ path, some (sysfsBusid bus path) ∈ entries →
        ¬ sysfs.Defaulted bus address (sysfsBusid bus path) := by
  constructor
  · -- listed first, such an entry is what is found
    intro h path hmem hdefaulted
    have hperm := (List.perm_cons_erase hmem).symm
    have hfound := findPortPath_cons hdefaulted.interface hdefaulted.hasAddress
      (entries.erase (some (sysfsBusid bus path)))
    have hok : portPathForAddress (sysfs.listing (some (sysfsBusid bus path) ::
        entries.erase (some (sysfsBusid bus path)))) bus address = .ok path := by
      rw [portPathForAddress_listing, hfound]
    obtain ⟨-, hmatch⟩ := h.sound _ hperm path hok
    rcases hdefaulted.unreadable with hnone | hnone
    · exact absurd (hmatch.busnum.symm.trans hnone) nofun
    · exact absurd (hmatch.devnum.symm.trans hnone) nofun
  · intro hno
    refine ⟨fun order hperm path hok => ?_, fun order hperm e herror path hmem => ?_, ?_⟩
    · exact findPortPath_matches hno hperm (findPortPath_of_ok hok)
    · rw [portPathForAddress_listing] at herror
      split at herror
      · cases herror
      · rename_i hnone
        exact findPortPath_none hperm hnone hmem
    · intro hunique order order' hperm hperm'
      rw [portPathForAddress_listing, portPathForAddress_listing]
      cases hfound : sysfs.findPortPath bus address order with
      | none =>
        cases hfound' : sysfs.findPortPath bus address order' with
        | none => rfl
        | some path =>
          obtain ⟨hmem, hmatch⟩ := findPortPath_matches hno hperm' hfound'
          exact absurd hmatch (findPortPath_none hperm hfound hmem)
      | some path =>
        obtain ⟨hmem, hmatch⟩ := findPortPath_matches hno hperm hfound
        cases hfound' : sysfs.findPortPath bus address order' with
        | none => exact absurd hmatch (findPortPath_none hperm' hfound' hmem)
        | some path' =>
          obtain ⟨hmem', hmatch'⟩ := findPortPath_matches hno hperm' hfound'
          rw [hunique path path' hmem hmem' hmatch hmatch']

/-- Only at bus 0 or address 0 can an entry be taken so. -/
theorem not_defaulted_of_ne_zero (hbus : bus ≠ 0)
    (haddress : address ≠ 0) (name : String) : ¬ sysfs.Defaulted bus address name := by
  rintro ⟨-, htaken, hnone | hnone⟩
  · simp only [Sysfs.hasAddress, hnone, Option.getD_none, Bool.and_eq_true, beq_iff_eq] at htaken
    exact hbus (UInt8.toUInt32_inj.mp htaken.1.symm)
  · simp only [Sysfs.hasAddress, hnone, Option.getD_none, Bool.and_eq_true, beq_iff_eq] at htaken
    exact haddress (UInt8.toUInt32_inj.mp htaken.2.symm)

/-- A directory with one device, whose address cannot be read. -/
def noDevnum : Sysfs where
  entries := .ok [some "1-2"]
  attr _ file := if file = "busnum" then some "1\n" else none

/-- It is found at address 0. -/
theorem unreadable_devnum_found :
    portPathForAddress (noDevnum.listing [some "1-2"]) 1 0 = .ok "2" ∧
      noDevnum.readSysfsU32 "1-2" "devnum" = none ∧ ¬ LooksUp noDevnum 1 0 [some "1-2"] := by
  have hfound : portPathForAddress (noDevnum.listing [some "1-2"]) 1 0 = .ok "2" := by
    decide +kernel
  refine ⟨hfound, rfl, fun h => ?_⟩
  obtain ⟨-, hmatch⟩ := h.sound _ (.refl _) "2" hfound
  exact absurd hmatch.devnum nofun

end WolfUsb.KernelUsbip
