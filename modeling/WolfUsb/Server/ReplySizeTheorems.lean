/-
WolfUsb.Server.ReplySizeTheorems — whether the reply to a transfer fits a
frame.

`capped_length` lets a client ask for as many bytes as a whole frame has,
and the reply has other fields beside them. With the sizes of bincode's
standard configuration the reply is 15 bytes and the session id longer
than its data, so the last few lengths the cap allows make a reply that
`encode` refuses (`full_read_reply_too_large`), after the device was read;
`run` then ends the connection (`unsent_reply_ends_connection`).
-/
import WolfUsb.Protocol.Sizes
import WolfUsb.Server.ListenerTheorems

namespace WolfUsb

open WolfUsb.Lib Codec Transfer

variable {W : Type} (p : Platform W)

/-! ## Replies to reads -/

/-- `encode` accepts the reply. -/
def ReplyFits (b : Bincode) (dst : Bytes) (resp : TransferResponse) : Prop :=
  ∃ out, encode b (.transferResult resp) dst = .ok out

/-- A payload shorter than 2^32 is framed exactly when it is at most 16 MiB. -/
theorem encode_ok_iff {b : Bincode} {m : Message} {payload : Bytes}
    (h : b.encodeToVec m = .ok payload) (hlen : payload.length < 2 ^ 32) (dst : Bytes) :
    (∃ out, encode b m dst = .ok out) ↔ payload.length ≤ maxFrameSize.toNat := by
  constructor
  · rintro ⟨out, hout⟩
    have hnat : (UInt32.ofNat payload.length).toNat = payload.length := by
      rw [UInt32.toNat_ofNat']
      exact Nat.mod_eq_of_lt hlen
    by_contra hlarge
    have hgt : UInt32.ofNat payload.length > maxFrameSize := by
      rw [gt_iff_lt, UInt32.lt_iff_toNat_lt, hnat]
      exact Nat.lt_of_not_le hlarge
    simp only [encode, h, if_pos hgt] at hout
    cases hout
  · intro hsmall
    exact ⟨_, encode_small b h hsmall dst⟩

/-- A read of exactly `n` bytes into a buffer that holds them. -/
theorem readResponse_ok {s : UInt64} {d : DeviceId} {len n : Nat} {bytes : Bytes}
    (hn : n ≤ len) (hbytes : bytes.length = n) :
    readResponse p s d len (.ok (n, bytes)) = success s d bytes n := by
  have hdata : (filledBuffer len bytes).take n = bytes := by
    rw [filledBuffer, List.take_of_length_le (l := bytes) (hbytes ▸ hn)]
    exact List.take_left' hbytes
  rw [readResponse, hdata]

/-- The size of the reply to a read of `n` bytes. -/
theorem resultSize_success {s : UInt64} {d : DeviceId} {bytes : Bytes} {n : Nat}
    (hbytes : bytes.length = n) (hn : n ≤ maxFrameSize.toNat) :
    Bincode.resultSize (success s d bytes n)
      = 5 + Format.varintSize s.toNat + 2 * Format.varintSize n + n := by
  have hmax := maxFrameSize_toNat
  have hcount : (UInt32.ofNat n).toNat = n := by
    rw [UInt32.toNat_ofNat']
    exact Nat.mod_eq_of_lt (by omega)
  simp only [Bincode.resultSize, success, hcount, hbytes]
  omega

/-- Below 2^16 bytes the reply is far from the limit; from there on the
length of the data and the count take five bytes each. -/
theorem resultSize_le_iff {s : UInt64} {d : DeviceId} {bytes : Bytes} {n : Nat}
    (hbytes : bytes.length = n) (hn : n ≤ maxFrameSize.toNat) :
    Bincode.resultSize (success s d bytes n) ≤ maxFrameSize.toNat ↔
      n + 15 + Format.varintSize s.toNat ≤ maxFrameSize.toNat := by
  have hmax := maxFrameSize_toNat
  have hsession := Format.varintSize_le s.toNat
  rw [resultSize_success hbytes hn]
  by_cases hlarge : n < 256 ^ 2
  · have hvar : Format.varintSize n ≤ 9 := Format.varintSize_le n
    omega
  · have hvar : Format.varintSize n = 5 := by
      unfold Format.varintSize
      rw [if_neg (by omega), if_neg hlarge, if_pos (by omega)]
    omega

/-- The reply to a read of `n` bytes fits exactly when the data leaves room
for 15 bytes and the session id. -/
theorem read_reply_fits_iff {b : Bincode} (hb : b.DocumentedSize) (dst : Bytes) {s : UInt64}
    {d : DeviceId} {n : Nat} {bytes : Bytes} (hbytes : bytes.length = n)
    (hn : n ≤ maxFrameSize.toNat) :
    ReplyFits b dst (success s d bytes n) ↔
      n + 15 + Format.varintSize s.toNat ≤ maxFrameSize.toNat := by
  have hmax := maxFrameSize_toNat
  obtain ⟨payload, henc, hsize⟩ := hb (success s d bytes n) rfl
    (show bytes.length < 2 ^ 64 by omega)
  have hlen : payload.length < 2 ^ 32 := by
    rw [hsize, resultSize_success hbytes hn]
    have hsession := Format.varintSize_le s.toNat
    have hcount := Format.varintSize_le n
    omega
  rw [ReplyFits, encode_ok_iff henc hlen, hsize]
  exact resultSize_le_iff hbytes hn

theorem cappedLength_ok {length : UInt32} {s : UInt64} {d : DeviceId} {len : Nat}
    (h : cappedLength length s d = .ok len) : len ≤ maxFrameSize.toNat := by
  unfold cappedLength at h
  split at h
  · cases h
  · rename_i hle
    cases h
    rw [gt_iff_lt, UInt32.lt_iff_toNat_lt] at hle
    exact Nat.le_of_not_lt hle

/-- **Replies to IN transfers.** A Bulk or Interrupt IN transfer that
`capped_length` accepts and that reads `n` bytes has a reply that fits a
frame exactly when those bytes leave room for 15 bytes and the session id. -/
theorem transfer_reply_fits (b : Bincode) (hb : b.DocumentedSize) (dst : Bytes) (handle : Handle)
    (u : Bus W) :
    (∀ (req : BulkTransferRequest) len n bytes u', directionIn req.endpoint = true →
      cappedLength req.length req.sessionId req.deviceId = .ok len →
      p.call (.readBulk handle req.endpoint len (safeTimeout req.timeoutMs)) u
        = (.ok (n, bytes), u') →
      n ≤ len → bytes.length = n →
      (ReplyFits b dst (executeBulkTransfer p handle req u).1 ↔
        n + 15 + Format.varintSize req.sessionId.toNat ≤ maxFrameSize.toNat)) ∧
    (∀ (req : InterruptTransferRequest) len n bytes u', directionIn req.endpoint = true →
      cappedLength req.length req.sessionId req.deviceId = .ok len →
      p.call (.readInterrupt handle req.endpoint len (safeTimeout req.timeoutMs)) u
        = (.ok (n, bytes), u') →
      n ≤ len → bytes.length = n →
      (ReplyFits b dst (executeInterruptTransfer p handle req u).1 ↔
        n + 15 + Format.varintSize req.sessionId.toNat ≤ maxFrameSize.toNat)) := by
  constructor
  · intro req len n bytes u' hin hcap hread hn hbytes
    have hresp : (executeBulkTransfer p handle req u).1
        = success req.sessionId req.deviceId bytes n := by
      simp only [executeBulkTransfer, hin, if_true, hcap, hread, readResponse_ok p hn hbytes]
    rw [hresp]
    exact read_reply_fits_iff hb dst hbytes (Nat.le_trans hn (cappedLength_ok hcap))
  · intro req len n bytes u' hin hcap hread hn hbytes
    have hresp : (executeInterruptTransfer p handle req u).1
        = success req.sessionId req.deviceId bytes n := by
      simp only [executeInterruptTransfer, hin, if_true, hcap, hread, readResponse_ok p hn hbytes]
    rw [hresp]
    exact read_reply_fits_iff hb dst hbytes (Nat.le_trans hn (cappedLength_ok hcap))

/-- A host whose devices fill every bulk read with zeros. -/
def fullReadHost : Platform Nat :=
  { twoDeviceHost with
    usb := fun
      | .readBulk _ _ len _, w => (.ok (len, List.replicate len 0), w)
      | call, w => twoDeviceHost.usb call w }

/-- A bulk read of 16 MiB. -/
def fullRead : BulkTransferRequest := ⟨1, ⟨1, 2⟩, 0x81, [], maxTransferBuffer, 1000⟩

theorem fullRead_response {len : Nat}
    (hcap : cappedLength fullRead.length fullRead.sessionId fullRead.deviceId = .ok len) :
    (executeBulkTransfer fullReadHost 0 fullRead ⟨0, []⟩).1
      = success 1 ⟨1, 2⟩ (List.replicate len 0) len := by
  have hread : fullReadHost.call (.readBulk 0 fullRead.endpoint len
      (safeTimeout fullRead.timeoutMs)) ⟨0, []⟩ = (.ok (len, List.replicate len 0), _) := rfl
  have hin : directionIn fullRead.endpoint = true := rfl
  simp only [executeBulkTransfer, hin, if_true, hcap, hread]
  exact readResponse_ok fullReadHost (Nat.le_refl len) List.length_replicate

/-- A reply with 16 MiB of data is sixteen bytes too long. -/
theorem encode_full_read {bytes : Bytes} (hbytes : bytes.length = 16777216) :
    encode Bincode.standard (.transferResult (success 1 ⟨1, 2⟩ bytes 16777216)) []
      = .error (.frameTooLarge 16777232 maxFrameSize) := by
  obtain ⟨payload, henc, hsize⟩ := Bincode.standard_documentedSize
    (success 1 ⟨1, 2⟩ bytes 16777216) rfl (show bytes.length < 2 ^ 64 by omega)
  have hlen : payload.length = 16777232 :=
    hsize.trans (resultSize_success hbytes (Nat.le_of_eq maxFrameSize_toNat.symm))
  have hlarge : UInt32.ofNat 16777232 > maxFrameSize := by decide
  simp only [encode, henc, hlen, if_pos hlarge]
  rfl

/-- `capped_length` accepts it, the device delivers, and `encode` refuses
the reply. -/
theorem full_read_reply_too_large :
    ∃ bytes : Bytes, bytes.length = 16777216 ∧
      cappedLength fullRead.length fullRead.sessionId fullRead.deviceId = .ok 16777216 ∧
      (executeBulkTransfer fullReadHost 0 fullRead ⟨0, []⟩).1
        = success fullRead.sessionId fullRead.deviceId bytes 16777216 ∧
      encode Bincode.standard
          (.transferResult (executeBulkTransfer fullReadHost 0 fullRead ⟨0, []⟩).1) []
        = .error (.frameTooLarge 16777232 maxFrameSize) := by
  have hcap : cappedLength fullRead.length fullRead.sessionId fullRead.deviceId
      = .ok 16777216 := by
    rw [cappedLength, if_neg (by decide)]
    exact congrArg _ maxFrameSize_toNat
  have hresp := fullRead_response hcap
  have hbytes : (List.replicate 16777216 (0 : UInt8)).length = 16777216 := List.length_replicate
  have henc := encode_full_read hbytes
  rw [← hresp] at henc
  exact ⟨_, hbytes, hcap, hresp, henc⟩

/-- A read of one byte on the two-device host with a quiet bulk endpoint. -/
def oneByteHost : Platform Nat :=
  { twoDeviceHost with
    usb := fun
      | .readBulk _ _ _ _, w => (.ok (1, [7]), w)
      | call, w => twoDeviceHost.usb call w }

theorem transfer_reply_fits_one_byte :
    ReplyFits Bincode.standard []
      (executeBulkTransfer oneByteHost 0 ⟨1, ⟨1, 2⟩, 0x81, [], 64, 1000⟩ ⟨0, []⟩).1 := by
  have hcap : cappedLength 64 1 ⟨1, 2⟩ = .ok 64 := if_neg (by decide)
  have hroom : 1 + 15 + Format.varintSize (1 : UInt64).toNat ≤ maxFrameSize.toNat := by
    rw [maxFrameSize_toNat]
    decide
  exact ((transfer_reply_fits oneByteHost Bincode.standard Bincode.standard_documentedSize [] 0
    ⟨0, []⟩).1 ⟨1, ⟨1, 2⟩, 0x81, [], 64, 1000⟩ 64 1 [7] _ (by decide) hcap rfl (by decide)
      rfl).mpr hroom

/-- A reply that is not sent ends its connection. -/
theorem unsent_reply_ends_connection {sv sv' : Server W} {c : Nat} {msg : Message} {o : Outcome}
    {out : Output} (h : sv.step p (.receive c msg o) = some (sv', out)) (hsent : o.sent = false) :
    sv'.connections.lookup c = none := by
  cases Server.step_cases p h with
  | reply hc hm hs =>
      rw [hsent] at hs
      cases hs
  | handOff hc hm hs =>
      rw [hsent] at hs
      cases hs
  | drop hc hm hs hk => exact Finmap.lookup_erase ..

end WolfUsb
