/-
WolfUsb.Server.Availability — a device is lent to one client at a time,
and to the next one as soon as it is given back.

`attach` asks its own map whether a device is taken. In a tidy run the map
says what the tables of the live connections say (`Secured.attached_iff`),
so an Attach is refused as "already attached" only while a client that is
still there holds the device; else it is answered as on a server that was
just started (`attach_free`): no client that is gone and nothing else in
the history of the server keeps a device from being attached.
-/
import WolfUsb.Server.ManagerRuns

namespace WolfUsb

open WolfUsb.Lib

variable {W : Type} (p : Platform W)

/-! ## Who holds a device -/

/-- Connection `c` is being served and has the session for the device. -/
def Server.HasLent (sv : Server W) (c : Nat) (s : UInt64) (d : DeviceId) : Prop :=
  ∃ conn, sv.connections.lookup c = some conn ∧ conn.sessions.lookup s = some d

def Server.Held (sv : Server W) (d : DeviceId) : Prop := ∃ c s, sv.HasLent c s d

/-- The manager has attached what the tables of the connections name. -/
theorem Registry.Secured.attached_iff {r : Registry} (h : ∀ c, r.Secured c) (d : DeviceId) :
    d ∈ r.manager.attachments ↔ ∃ c t s, r.tables c = some t ∧ t.lookup s = some d := by
  constructor
  · intro hd
    obtain ⟨s, hs⟩ := ((h 0).coherent.consistent.range d).mp hd
    obtain ⟨info, c, -, hg⟩ := (h 0).coherent.granted s d hs
    obtain ⟨t, ht, hlook⟩ := (h c).held s d ((h 0).recorded d _ hg) hs
    exact ⟨c, t, s, ht, hlook⟩
  · rintro ⟨c, t, s, ht, hlook⟩
    obtain ⟨hs, -⟩ := (h c).coherent.owned c t s d ht hlook
    exact (h c).coherent.attached hs

/-- One connection has it, under one session. -/
theorem Registry.Coherent.holder_unique {r : Registry} (h : r.Coherent) {c c' : Nat}
    {t t' : HashMap UInt64 DeviceId} {s s' : UInt64} {d : DeviceId} (ht : r.tables c = some t)
    (hs : t.lookup s = some d) (ht' : r.tables c' = some t') (hs' : t'.lookup s' = some d) :
    c = c' ∧ s = s' := by
  obtain ⟨-, handle, hg⟩ := h.owned c t s d ht hs
  obtain ⟨-, handle', hg'⟩ := h.owned c' t' s' d ht' hs'
  rw [hg] at hg'
  cases hg'
  exact ⟨rfl, rfl⟩

theorem Audited.held_iff {a : Audited W} {d : DeviceId} :
    a.server.Held d ↔ ∃ c t s, a.registry.tables c = some t ∧ t.lookup s = some d := by
  constructor
  · rintro ⟨c, s, conn, hconn, hs⟩
    exact ⟨c, conn.sessions, s, Audited.registry_table hconn, hs⟩
  · rintro ⟨c, t, s, ht, hs⟩
    obtain ⟨conn, hconn, rfl⟩ := Option.map_eq_some_iff.mp ht
    exact ⟨c, s, conn, hconn, hs⟩

/-! ## What `attach` says -/

namespace DeviceManager

/-- The manager's own refusal is no other error. -/
theorem attach_alreadyAttached_iff (m : DeviceManager) (d : DeviceId) (addr : SocketAddr)
    (u : Bus W) :
    (m.attach p d addr u).1 = .error .deviceAlreadyAttached ↔ d ∈ m.attachments := by
  unfold attach
  constructor
  · intro h
    split at h
    · assumption
    · exfalso
      split at h
      · rename_i e u' hfind
        obtain rfl := Except.error.inj h
        unfold findDevice at hfind
        split at hfind
        · cases hfind
        · split at hfind <;> cases hfind
      · split at h
        · cases h
        · split at h <;> cases h
  · intro hd
    rw [if_pos hd]

/-- A free device attaches as on a manager without attachments; only the
session id tells the two apart. -/
theorem attach_free {m : DeviceManager} {d : DeviceId} (hd : d ∉ m.attachments)
    (addr : SocketAddr) (u : Bus W) :
    ((m.attach p d addr u).1.map fun _ => ()) = ((new.attach p d addr u).1.map fun _ => ()) ∧
      (m.attach p d addr u).2.2 = (new.attach p d addr u).2.2 := by
  have hnew : d ∉ new.attachments := Finmap.notMem_empty
  unfold attach
  rw [if_neg hd, if_neg hnew]
  split
  · exact ⟨rfl, rfl⟩
  · split
    · exact ⟨rfl, rfl⟩
    · split
      · exact ⟨rfl, rfl⟩
      · exact ⟨rfl, rfl⟩

end DeviceManager

theorem getElem?_toList_append {s t : String} {i : Nat} (h : i < s.toList.length) :
    (s ++ t).toList[i]? = s.toList[i]? := by
  rw [String.toList_append, List.getElem?_append_left h]

/-- No other error of an Attach has the text of the manager's own refusal. -/
theorem DeviceManager.attach_text {m : DeviceManager} {d : DeviceId} {addr : SocketAddr}
    {u : Bus W} {e : WolfUsbError} (h : (m.attach p d addr u).1 = .error e)
    (htext : e.text p = "Device already attached by another client") :
    e = .deviceAlreadyAttached := by
  -- the texts differ in their first or in their eighth character
  have husb : ∀ source, e ≠ .usbError source := by
    rintro source rfl
    have hfirst : ("USB error: " ++ p.usbErrorText source).toList[0]?
        = "Device already attached by another client".toList[0]? :=
      congrArg (fun text => text.toList[0]?) htext
    rw [getElem?_toList_append (by decide +kernel)] at hfirst
    exact absurd hfirst (by decide +kernel)
  have hfound : ∀ bus address, e ≠ .deviceNotFound bus address := by
    rintro bus address rfl
    have heighth : ("Device not found: bus=" ++ toString bus ++ " addr=" ++
        toString address).toList[7]? = "Device already attached by another client".toList[7]? :=
      congrArg (fun text => text.toList[7]?) htext
    rw [String.append_assoc, String.append_assoc, getElem?_toList_append (by decide +kernel)]
      at heighth
    exact absurd heighth (by decide +kernel)
  unfold attach at h
  split at h
  · exact (Except.error.inj h).symm
  · exfalso
    split at h
    · rename_i e' u' hfind
      obtain rfl := Except.error.inj h
      unfold findDevice at hfind
      split at hfind
      · cases hfind
        exact husb _ rfl
      · split at hfind
        · cases hfind
        · cases hfind
          exact hfound _ _ rfl
    · split at h
      · cases h
        exact husb _ rfl
      · split at h
        · cases h
          exact husb _ rfl
        · cases h

/-! ## What the client is told -/

/-- How an Attach for the device is answered. -/
def Connection.attachAnswer (conn : Connection) (d : DeviceId) (sh : Shared W) : Message :=
  (conn.handleMessage p none (.attach ⟨d⟩) sh).1.message

theorem Connection.attachAnswer_eq {conn : Connection} (hopen : conn.gated = false)
    (d : DeviceId) (sh : Shared W) :
    conn.attachAnswer p d sh =
      match (sh.manager.attach p d conn.peerAddr sh.bus).1 with
      | .ok s => .attachResult ⟨d, true, none, some s⟩
      | .error e => attachRefused d (e.text p) := by
  obtain ⟨r, m, u, hr⟩ : ∃ r m u, sh.manager.attach p d conn.peerAddr sh.bus = (r, m, u) :=
    ⟨_, _, _, rfl⟩
  rw [hr]
  simp only [attachAnswer, handleMessage, hopen, dispatch, handleAttach, spawnBlocking,
    Shared.locked, hr]
  cases r <;> rfl

/-- The answer up to the number of the session it gives. -/
def Message.butSession : Message → Message
  | .attachResult resp => .attachResult { resp with sessionId := resp.sessionId.map fun _ => 0 }
  | msg => msg

/-- The device is lent to one client at a time; a client is told that it
is attached while it is lent and no longer, and else what a server that
was just started would tell. -/
structure Server.Lends (sv : Server W) (conn : Connection) (d : DeviceId) : Prop where
  unique : ∀ c s c' s', sv.HasLent c s d → sv.HasLent c' s' d → c = c' ∧ s = s'
  taken : conn.attachAnswer p d sv.shared =
    Connection.attachRefused d "Device already attached by another client" ↔ sv.Held d
  free : ¬ sv.Held d → (conn.attachAnswer p d sv.shared).butSession =
    (conn.attachAnswer p d ⟨.new, sv.shared.bus⟩).butSession

theorem Registry.Secured.lends {a : Audited W} (h : ∀ c, a.registry.Secured c)
    {conn : Connection} (hopen : conn.gated = false) (d : DeviceId) :
    a.server.Lends p conn d := by
  have hheld : a.server.Held d ↔ d ∈ a.server.shared.manager.attachments :=
    Audited.held_iff.trans (Registry.Secured.attached_iff h d).symm
  constructor
  · rintro c s c' s' ⟨conn₁, hconn₁, hs⟩ ⟨conn₂, hconn₂, hs'⟩
    exact (h 0).coherent.holder_unique (Audited.registry_table hconn₁) hs
      (Audited.registry_table hconn₂) hs'
  · rw [hheld, ← DeviceManager.attach_alreadyAttached_iff p _ d conn.peerAddr a.server.shared.bus,
      conn.attachAnswer_eq p hopen]
    cases hattach : (a.server.shared.manager.attach p d conn.peerAddr a.server.shared.bus).1 with
    | ok s => simp [Connection.attachRefused]
    | error e =>
        constructor
        · intro hanswer
          have htext : e.text p = "Device already attached by another client" := by
            simpa [Connection.attachRefused] using hanswer
          rw [DeviceManager.attach_text p hattach htext]
        · intro heq
          rw [Except.error.inj heq]
          rfl
  · intro hfree
    rw [hheld] at hfree
    obtain ⟨hsame, -⟩ := DeviceManager.attach_free p hfree conn.peerAddr a.server.shared.bus
    rw [conn.attachAnswer_eq p hopen, conn.attachAnswer_eq p hopen]
    cases hold : (a.server.shared.manager.attach p d conn.peerAddr a.server.shared.bus).1 <;>
      cases hnew : (DeviceManager.new.attach p d conn.peerAddr a.server.shared.bus).1 <;>
        simp_all [Except.map, Message.butSession]

/-- **A device is available** to every client that may ask for it, in every
state of every tidy run, unless a client that is still connected holds it. -/
theorem device_is_lent_or_available (sharedKey : Option Bytes) (tls : Bool) (world : W)
    {es : List Event}
    (hC : StepsAlong (Audited.Steps p) (fun a e => a.Tidy p e) (.start sharedKey tls world) es) :
    StatesAlong (Audited.Steps p)
      (fun a => ∀ c conn d, a.server.connections.lookup c = some conn → conn.gated = false →
        a.server.Lends p conn d)
      (.start sharedKey tls world) es := by
  refine (secured_along sharedKey tls world hC).mono ?_
  intro a ha c conn d _ hopen
  exact Registry.Secured.lends p ha.2 hopen d

/-- Connection 1 asks for the device of connection 0, which is lost, and
asks again. -/
def askedTwice : List Event :=
  [.accept ⟨"10.0.0.1", 4000⟩, .accept ⟨"10.0.0.2", 4000⟩, .receive 0 (.attach ⟨⟨1, 2⟩⟩) {},
    .receive 1 (.attach ⟨⟨1, 2⟩⟩) {}, .hangup 0 { keys := [1] }, .receive 1 (.attach ⟨⟨1, 2⟩⟩) {}]

theorem device_is_lent_or_available_asked_twice :
    StatesAlong (Audited.Steps twoDeviceHost)
      (fun a => ∀ c conn d, a.server.connections.lookup c = some conn → conn.gated = false →
        a.server.Lends twoDeviceHost conn d)
      (.start none false 0) askedTwice :=
  device_is_lent_or_available twoDeviceHost none false 0 (by decide +kernel)

end WolfUsb
