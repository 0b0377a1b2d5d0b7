/-
WolfUsb.Client.MountPortTheorems — when the mount processes of a host keep
their ports apart.

A process knows its device by the number of a port. As long as no process
is given a port on which another is still parked, the device on that port
is its own or there is none, each poll after a release counts, and the
second ends the process (`WatchedHost.Orderly`). One attach on a port that
another process still watches is enough to break it, so the condition is
exact.
-/
import WolfUsb.Bridge.VhciTheorems
import WolfUsb.Client.MountPort

namespace WolfUsb

open Lib
open Vhci (IoError StatusLayout)

/-! ## Ports and processes -/

namespace MountHost

variable {h h' : MountHost}

theorem process_setProcess_self (m : Nat) (pc : Mount.Pc) :
    (h.setProcess m pc).process m = pc :=
  Function.update_self ..

theorem process_setProcess_of_ne {m m' : Nat} (pc : Mount.Pc) (hne : m' ≠ m) :
    (h.setProcess m pc).process m' = h.process m' :=
  Function.update_of_ne hne ..

/-- The first row of a port stays the first one. -/
theorem find?_setDevice (port q : UInt32) (device : Option Bridged) :
    (h.setDevice port device).ports.find? (·.number = q)
      = (h.ports.find? (·.number = q)).map fun r =>
          if r.number = port then { r with device } else r := by
  have hnumber : ∀ r : Port,
      (if r.number = port then { r with device } else r).number = r.number := by
    intro r
    split <;> rfl
  rw [setDevice, List.find?_map]
  simp only [Function.comp_def, hnumber]

theorem number_of_find? {port : UInt32} {r : Port}
    (hr : h.ports.find? (·.number = port) = some r) : r.number = port := by
  simpa using List.find?_some hr

theorem device_setDevice_of_ne {port q : UInt32} (device : Option Bridged) (hne : q ≠ port) :
    (h.setDevice port device).device q = h.device q := by
  rw [MountHost.device, MountHost.device, find?_setDevice]
  cases hr : h.ports.find? (·.number = q) with
  | none => rfl
  | some r => simp [number_of_find? hr, hne]

/-- Nothing is put on a port that is not listed. -/
theorem device_setDevice_self (port : UInt32) (device : Option Bridged) :
    (h.setDevice port device).device port
      = (h.ports.find? (·.number = port)).bind fun _ => device := by
  rw [MountHost.device, find?_setDevice]
  cases hr : h.ports.find? (·.number = port) with
  | none => rfl
  | some r => simp [number_of_find? hr]

theorem device_of_isFree {port : UInt32} (hfree : h.isFree port = true) : h.device port = none := by
  unfold isFree at hfree
  unfold MountHost.device
  cases hr : h.ports.find? (·.number = port) with
  | none => rfl
  | some r => simpa [hr] using hfree

/-- A free port takes a device. -/
theorem device_attached {port : UInt32} (hfree : h.isFree port = true) (b : Bridged) :
    (h.setDevice port (some b)).device port = some b := by
  unfold isFree at hfree
  rw [device_setDevice_self]
  cases hr : h.ports.find? (·.number = port) with
  | none => simp [hr] at hfree
  | some r => rfl

/-- What is on a port after a change was there before, or was put there. -/
theorem device_of_setDevice {port q : UInt32} {device : Option Bridged} {b : Bridged}
    (hd : (h.setDevice port device).device q = some b) :
    h.device q = some b ∨ (q = port ∧ device = some b) := by
  by_cases hq : q = port
  · subst hq
    rw [device_setDevice_self] at hd
    obtain ⟨r, -, hb⟩ := Option.bind_eq_some_iff.mp hd
    exact Or.inr ⟨rfl, hb⟩
  · rw [device_setDevice_of_ne device hq] at hd
    exact Or.inl hd

/-- A port that is read as in use carries a device. -/
theorem device_of_portInUse {reading : Except IoError StatusLayout} {port : UInt32}
    (huse : Vhci.portInUse (h.view reading) port = true) : ∃ b, h.device port = some b := by
  have hpath : Vhci.findVhciPath (h.view reading) = .ok 0 := rfl
  unfold Vhci.portInUse at huse
  rw [hpath] at huse
  cases reading with
  | error e => cases huse
  | ok layout =>
      have hread : Vhci.portStatusFromContent
          (Vhci.statusFile layout (h.ports.map Port.row)) port
          = (h.ports.find? (·.number = port)).map Port.status := by
        rw [Vhci.portStatusFromContent_statusFile, List.find?_map, Option.map_map]
        rfl
      change (Vhci.portStatusFromContent _ port).any (· ≠ 4) = true at huse
      rw [hread] at huse
      rw [MountHost.device]
      cases hr : h.ports.find? (·.number = port) with
      | none => simp [hr] at huse
      | some r =>
          cases hdev : r.device with
          | none => simp [hr, Port.status, hdev] at huse
          | some b => exact ⟨b, hdev⟩

/-! ## One step -/

/-- The eight things one event can do. -/
inductive StepsTo (h : MountHost) : MountEvent → MountHost → Prop
  | scan {m : Nat} {reading : Except IoError StatusLayout} (hm : h.process m = .ready) :
      StepsTo h (.scan m reading)
        (h.setProcess m (.afterScan (Vhci.choosePort (h.view reading))))
  | attach {m : Nat} {port : UInt32} {status : { s : UInt32 // s ≠ 4 }}
      (hm : h.process m = .writing port) (hfree : h.isFree port = true) :
      StepsTo h (.attach m (.ok ()) status)
        ((h.setDevice port (some ⟨m, status.val, status.property⟩)).setProcess m (.parked port 0))
  | refused {m : Nat} {port : UInt32} {e : IoError} {status : { s : UInt32 // s ≠ 4 }}
      (hm : h.process m = .writing port) :
      StepsTo h (.attach m (.error e) status)
        (h.setProcess m (.exited (.error (Mount.attachFailed e))))
  | poll {m : Nat} {port : UInt32} {n : UInt8} {reading : Except IoError StatusLayout}
      (hm : h.process m = .parked port n) :
      StepsTo h (.poll m reading)
        (h.setProcess m (.afterPoll port
          (Mount.pollPort (Vhci.portInUse (h.view reading) port) n)))
  | detach {m : Nat} {port : UInt32} {n : UInt8} (hm : h.process m = .parked port n) :
      StepsTo h (.ctrlC m (.ok ())) ((h.setDevice port none).setProcess m (.exited (.ok ())))
  | undetached {m : Nat} {port : UInt32} {n : UInt8} {e : IoError}
      (hm : h.process m = .parked port n) :
      StepsTo h (.ctrlC m (.error e)) (h.setProcess m (.exited (.ok ())))
  | release (port : UInt32) : StepsTo h (.release port) (h.setDevice port none)
  | settle {port : UInt32} {status : { s : UInt32 // s ≠ 4 }} {b : Bridged}
      (hd : h.device port = some b) :
      StepsTo h (.settle port status)
        (h.setDevice port (some ⟨b.mount, status.val, status.property⟩))

/-- **Inversion of `MountHost.step`.** -/
theorem step_cases {e : MountEvent} (hstep : h.step e = some h') : StepsTo h e h' := by
  cases e with
  | scan m reading =>
      simp only [step] at hstep
      split at hstep
      · rename_i hm
        cases hstep
        exact .scan hm
      · cases hstep
  | attach m written status =>
      simp only [step] at hstep
      split at hstep
      · rename_i port hm
        split at hstep
        · rename_i hfree
          cases hstep
          exact .attach hm hfree
        · cases hstep
      · rename_i port e hm
        cases hstep
        exact .refused hm
      · cases hstep
  | poll m reading =>
      simp only [step] at hstep
      split at hstep
      · rename_i port n hm
        cases hstep
        exact .poll hm
      · cases hstep
  | ctrlC m written =>
      simp only [step] at hstep
      split at hstep
      · rename_i port n hm
        cases hstep
        exact .detach hm
      · rename_i port n e hm
        cases hstep
        exact .undetached hm
      · cases hstep
  | release port =>
      cases hstep
      exact .release port
  | settle port status =>
      simp only [step] at hstep
      split at hstep
      · rename_i b hd
        cases hstep
        exact .settle hd
      · cases hstep

theorem parked_of_setProcess {m m' : Nat} {pc : Mount.Pc} {q : UInt32} {n : UInt8}
    (hp : (h.setProcess m pc).process m' = .parked q n) :
    (m' = m ∧ pc = .parked q n) ∨ h.process m' = .parked q n := by
  by_cases hm : m' = m
  · subst hm
    rw [process_setProcess_self] at hp
    exact Or.inl ⟨rfl, hp⟩
  · rw [process_setProcess_of_ne pc hm] at hp
    exact Or.inr hp

theorem pollPort_some {inUse : Bool} {n n' : UInt8} (hpoll : Mount.pollPort inUse n = some n') :
    (inUse = true ∧ n' = 0) ∨ (inUse = false ∧ n' = n + 1 ∧ n' < 2) := by
  unfold Mount.pollPort at hpoll
  split at hpoll
  · rename_i huse
    exact Or.inl ⟨huse, (Option.some.inj hpoll).symm⟩
  · rename_i huse
    split at hpoll
    · cases hpoll
    · rename_i hle
      obtain rfl := Option.some.inj hpoll
      exact Or.inr ⟨by simpa using huse, rfl, UInt8.not_le.mp hle⟩

/-- **How a process comes to be parked**: it was given the port, it polled
and stayed, or it was parked there and did not poll. -/
theorem StepsTo.parked_after {e : MountEvent} {m : Nat} {q : UInt32} {n' : UInt8}
    (hstep : StepsTo h e h') (hp : h'.process m = .parked q n') :
    (∃ status, e = .attach m (.ok ()) status ∧ h.process m = .writing q ∧
      h.isFree q = true ∧ n' = 0) ∨
    (∃ n reading, e = .poll m reading ∧ h.process m = .parked q n ∧
      Mount.pollPort (Vhci.portInUse (h.view reading) q) n = some n' ∧ h'.ports = h.ports) ∨
    (h.process m = .parked q n' ∧ e.reads m = false) := by
  cases hstep with
  | @scan m₀ reading hm =>
      rcases parked_of_setProcess hp with ⟨-, hpc⟩ | hold
      · unfold Mount.Pc.afterScan at hpc
        split at hpc <;> cases hpc
      · exact Or.inr (Or.inr ⟨hold, rfl⟩)
  | @attach m₀ port status hm hfree =>
      rcases parked_of_setProcess hp with ⟨rfl, hpc⟩ | hold
      · cases hpc
        exact Or.inl ⟨status, rfl, hm, hfree, rfl⟩
      · exact Or.inr (Or.inr ⟨hold, rfl⟩)
  | refused hm =>
      rcases parked_of_setProcess hp with ⟨-, hpc⟩ | hold
      · cases hpc
      · exact Or.inr (Or.inr ⟨hold, rfl⟩)
  | @poll m₀ port n reading hm =>
      by_cases hm₀ : m = m₀
      · subst hm₀
        rw [process_setProcess_self] at hp
        unfold Mount.Pc.afterPoll at hp
        split at hp
        · rename_i hpoll
          cases hp
          exact Or.inr (Or.inl ⟨n, reading, rfl, hm, hpoll, rfl⟩)
        · cases hp
      · rw [process_setProcess_of_ne _ hm₀] at hp
        refine Or.inr (Or.inr ⟨hp, ?_⟩)
        cases reading with
        | ok layout => simpa [MountEvent.reads] using Ne.symm hm₀
        | error e => rfl
  | detach hm =>
      rcases parked_of_setProcess hp with ⟨-, hpc⟩ | hold
      · cases hpc
      · exact Or.inr (Or.inr ⟨hold, rfl⟩)
  | undetached hm =>
      rcases parked_of_setProcess hp with ⟨-, hpc⟩ | hold
      · cases hpc
      · exact Or.inr (Or.inr ⟨hold, rfl⟩)
  | release port => exact Or.inr (Or.inr ⟨hp, rfl⟩)
  | settle hd => exact Or.inr (Or.inr ⟨hp, rfl⟩)

/-- **How a device comes to be on a port**: it was there, or its process
was given the port. -/
theorem StepsTo.device_after {e : MountEvent} {q : UInt32} {b : Bridged}
    (hstep : StepsTo h e h') (hd : h'.device q = some b) :
    (∃ b₀, h.device q = some b₀ ∧ b₀.mount = b.mount) ∨
    ∃ status, e = .attach b.mount (.ok ()) status ∧ h.process b.mount = .writing q := by
  cases hstep with
  | scan hm => exact Or.inl ⟨b, hd, rfl⟩
  | @attach m port status hm hfree =>
      rcases device_of_setDevice hd with hold | ⟨rfl, hb⟩
      · exact Or.inl ⟨b, hold, rfl⟩
      · obtain rfl := Option.some.inj hb
        exact Or.inr ⟨status, rfl, hm⟩
  | refused hm => exact Or.inl ⟨b, hd, rfl⟩
  | poll hm => exact Or.inl ⟨b, hd, rfl⟩
  | detach hm =>
      rcases device_of_setDevice hd with hold | ⟨-, hb⟩
      · exact Or.inl ⟨b, hold, rfl⟩
      · cases hb
  | undetached hm => exact Or.inl ⟨b, hd, rfl⟩
  | release port =>
      rcases device_of_setDevice hd with hold | ⟨-, hb⟩
      · exact Or.inl ⟨b, hold, rfl⟩
      · cases hb
  | @settle port status b₀ hd₀ =>
      rcases device_of_setDevice hd with hold | ⟨rfl, hb⟩
      · exact Or.inl ⟨b, hold, rfl⟩
      · obtain rfl := Option.some.inj hb
        exact Or.inl ⟨b₀, hd₀, rfl⟩

end MountHost

/-- No process is given a port on which another is still parked. -/
def MountHost.Undisputed (h : MountHost) (e : MountEvent) : Prop :=
  ∀ m port status, e = .attach m (.ok ()) status → h.process m = .writing port →
    ∀ m' n, h.process m' ≠ .parked port n

namespace WatchedHost

/-! ## The ports kept apart -/

/-- A process that lost its device has polled at most once since, and one
that is parked would detach no other process's device. -/
def NeverMistaken (w : WatchedHost) : Prop :=
  (∀ m, w.host.lost m = true → w.polls m < 2) ∧
    ∀ e m port b, w.host.detaches e = some (m, port) → w.host.device port = some b → b.mount = m

/-- The device on a port is that of the process parked there, and the
process has counted every poll since it lost it. -/
structure Orderly (w : WatchedHost) : Prop where
  own : ∀ m port n b, w.host.process m = .parked port n → w.host.device port = some b →
    b.mount = m
  counted : ∀ m port n, w.host.process m = .parked port n → w.polls m ≤ n.toNat ∧ n.toNat < 2
  idle : ∀ m, w.host.lost m = false → w.polls m = 0

namespace Orderly

variable {w w' : WatchedHost}

theorem start (rows : List (Vhci.Hub × UInt32)) : (WatchedHost.start rows).Orderly where
  own m port n b hm := by cases hm
  counted m port n hm := by cases hm
  idle m hm := rfl

theorem neverMistaken (h : w.Orderly) : w.NeverMistaken := by
  refine ⟨fun m hlost => ?_, fun e m port b hdet hd => ?_⟩
  · cases hm : w.host.process m with
    | parked port n =>
        obtain ⟨hle, hlt⟩ := h.counted m port n hm
        omega
    | _ => simp [MountHost.lost, hm] at hlost
  · cases e with
    | ctrlC m₀ written =>
        simp only [MountHost.detaches] at hdet
        split at hdet
        · rename_i port n hm
          cases hdet
          exact h.own _ port n b hm hd
        · cases hdet
    | _ => cases hdet

/-- The device on the port of a parked process stays its own. -/
theorem own_step {e : MountEvent} {host' : MountHost} (h : w.Orderly)
    (hcond : w.host.Undisputed e) (hstep : w.host.StepsTo e host') {m : Nat} {port : UInt32}
    {n : UInt8} {b : Bridged} (hm : host'.process m = .parked port n)
    (hd : host'.device port = some b) : b.mount = m := by
  rcases hstep.device_after hd with ⟨b₀, hd₀, hmount⟩ | ⟨status, rfl, hwriting⟩
  · rw [← hmount]
    rcases hstep.parked_after hm with
      ⟨status, rfl, -, hfree, -⟩ | ⟨n₀, reading, rfl, hm₀, -⟩ | ⟨hm₀, -⟩
    · rw [MountHost.device_of_isFree hfree] at hd₀
      cases hd₀
    · exact h.own m port n₀ b₀ hm₀ hd₀
    · exact h.own m port n b₀ hm₀ hd₀
  · -- the port was given to `b.mount`, so no one was parked on it
    rcases hstep.parked_after hm with
      ⟨status', heq, -⟩ | ⟨n₀, reading, heq, -⟩ | ⟨hm₀, -⟩
    · exact (MountEvent.attach.inj heq).1
    · cases heq
    · exact absurd hm₀ (hcond b.mount port status rfl hwriting m n)

theorem lost_eq_false {host : MountHost} {m : Nat} {port : UInt32} {n : UInt8} {b : Bridged}
    (hm : host.process m = .parked port n) (hd : host.device port = some b) (hb : b.mount = m) :
    host.lost m = false := by
  simp [MountHost.lost, hm, hd, hb]

theorem step {e : MountEvent} (h : w.Orderly) (hcond : w.host.Undisputed e)
    (hstep : WatchedHost.Steps w e w') : w'.Orderly := by
  obtain ⟨host', hhost, rfl⟩ := Option.map_eq_some_iff.mp hstep
  have hs := MountHost.step_cases hhost
  refine ⟨fun m port n b hm hd => h.own_step hcond hs hm hd, fun m port n hm => ?_,
    fun m hlost => if_neg (by rw [hlost]; decide)⟩
  show (if host'.lost m then (if e.reads m then w.polls m + 1 else w.polls m) else 0) ≤ n.toNat ∧
    n.toNat < 2
  rcases hs.parked_after hm with
    ⟨status, rfl, hwriting, -, rfl⟩ | ⟨n₀, reading, rfl, hm₀, hpoll, hports⟩ | ⟨hm₀, hreads⟩
  · -- it was not parked before, so it had lost nothing
    have hidle := h.idle m (by simp [MountHost.lost, hwriting])
    simp [MountEvent.reads, hidle]
  · rcases MountHost.pollPort_some hpoll with ⟨huse, rfl⟩ | ⟨-, rfl, hlt⟩
    · -- the device it saw is its own
      obtain ⟨b, hd⟩ := MountHost.device_of_portInUse huse
      have hd' : host'.device port = some b := by
        rw [MountHost.device, hports]
        exact hd
      rw [lost_eq_false hm hd' (h.own_step hcond hs hm hd')]
      simp
    · obtain ⟨hle, hlt₀⟩ := h.counted m port n₀ hm₀
      have hsucc : (n₀ + 1).toNat = n₀.toNat + 1 := by
        rw [UInt8.toNat_add, UInt8.toNat_one]
        exact Nat.mod_eq_of_lt (by omega)
      have hlt : (n₀ + 1).toNat < 2 := hlt
      refine ⟨?_, hlt⟩
      split
      · split <;> omega
      · omega
  · obtain ⟨hle, hlt⟩ := h.counted m port n hm₀
    refine ⟨?_, hlt⟩
    rw [hreads]
    split
    · exact hle
    · omega

end Orderly

/-- **A disputed port is mistaken**: after an attach on a port that another
process is still parked on, that process would detach a device that is not
its own. -/
theorem undisputed_of_neverMistaken {w w' : WatchedHost} {e : MountEvent}
    (hstep : WatchedHost.Steps w e w') (h : w'.NeverMistaken) : w.host.Undisputed e := by
  rintro m port status rfl hwriting m' n hm'
  obtain ⟨host', hhost, rfl⟩ := Option.map_eq_some_iff.mp hstep
  have hne : m' ≠ m := by
    rintro rfl
    rw [hwriting] at hm'
    cases hm'
  cases MountHost.step_cases hhost with
  | @attach _ q _ hm hfree =>
      obtain rfl : port = q := by simpa [hm] using hwriting.symm
      have hparked : ((w.host.setDevice port (some ⟨m, status.val, status.property⟩)).setProcess m
          (.parked port 0)).process m' = .parked port n := by
        rw [MountHost.process_setProcess_of_ne _ hne]
        exact hm'
      have hdet := h.2 (.ctrlC m' (.ok ())) m' port ⟨m, status.val, status.property⟩
        (by simp [MountHost.detaches, hparked]) (MountHost.device_attached hfree _)
      exact hne hdet.symm

/-- **A port is never mistaken for one's own exactly when it is never
given away while watched.** In a run of any number of mount processes and
the kernel, no process that lost its device stays parked over two polls
that read the status file, and none detaches another's device, if and only
if every attach the kernel takes is on a port that no other process is
still parked on. -/
theorem port_never_mistaken (rows : List (Vhci.Hub × UInt32)) (es : List MountEvent) :
    StatesAlong Steps NeverMistaken (.start rows) es ↔
      StepsAlong Steps (fun w e => w.host.Undisputed e) (.start rows) es := by
  constructor
  · intro hstates
    refine stepsAlong_of_statesAlong (I := NeverMistaken) (fun w e w' _ hstep h => ?_) hstates
    exact undisputed_of_neverMistaken hstep h
  · intro hcond
    have horderly : StatesAlong Steps Orderly (.start rows) es :=
      statesAlong_of_stepsAlong (fun w e w' h hcond hstep => h.step hcond hstep)
        (Orderly.start rows) hcond
    exact horderly.mono fun w h => h.neverMistaken

/-- Two mounts and one port: the first loses it, the second is given it,
and the first polls twice. -/
theorem port_mistaken_after_restart :
    ∃ w, Run Steps (.start [(.hs, 0), (.hs, 1)])
        [.scan 0 (.ok {}), .attach 0 (.ok ()) ⟨6, by decide⟩, .release 0, .scan 1 (.ok {}),
          .attach 1 (.ok ()) ⟨6, by decide⟩, .poll 0 (.ok {}), .poll 0 (.ok {})] w ∧
      w.host.lost 0 = true ∧ w.polls 0 = 2 ∧
      w.host.detaches (.ctrlC 0 (.ok ())) = some (0, 0) ∧
      (w.host.device 0).map (·.mount) = some 1 := by
  have hplay : (play step (.start [(.hs, 0), (.hs, 1)])
      [.scan 0 (.ok {}), .attach 0 (.ok ()) ⟨6, by decide⟩, .release 0, .scan 1 (.ok {}),
        .attach 1 (.ok ()) ⟨6, by decide⟩, .poll 0 (.ok {}), .poll 0 (.ok {})]).map
      (fun w => (w.host.lost 0, w.polls 0, w.host.detaches (.ctrlC 0 (.ok ())),
        (w.host.device 0).map (·.mount))) = some (true, 2, some (0, 0), some 1) := by
    decide +kernel
  obtain ⟨w, hw, heq⟩ := Option.map_eq_some_iff.mp hplay
  simp only [Prod.mk.injEq] at heq
  obtain ⟨hlost, hpolls, hdet, hdev⟩ := heq
  exact ⟨w, play_iff_run.mp hw, hlost, hpolls, hdet, hdev⟩

end WatchedHost

end WolfUsb
