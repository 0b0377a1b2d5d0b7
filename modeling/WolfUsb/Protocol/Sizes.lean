/-
WolfUsb.Protocol.Sizes — the sizes of the two messages that carry the data
of a transfer.

`DocumentedSize` is what the crate documents of the encoding of a
TransferResult; `standard` has the sizes.
-/
import WolfUsb.Protocol.Codec

namespace WolfUsb

open WolfUsb.Lib

namespace Bincode

/-- The size of a TransferResult without an error message, as documented:
a tag, the session id, two bytes of device id, a flag, the data behind its
length, the count and an absent option. -/
def resultSize (resp : TransferResponse) : Nat :=
  1 + Format.varintSize resp.sessionId.toNat + 2 + 1 +
    (Format.varintSize resp.data.length + resp.data.length) +
    Format.varintSize resp.bytesTransferred.toNat + 1

/-- TransferResults are encoded in the documented size. -/
def DocumentedSize (b : Bincode) : Prop :=
  ∀ resp, resp.errorMessage = none → resp.data.length < 2 ^ 64 →
    ∃ payload, b.encodeToVec (.transferResult resp) = .ok payload ∧
      payload.length = resultSize resp

/-- The bytes of a TransferResult in the standard format. -/
theorem standard_transferResult (resp : TransferResponse) :
    (message.write (.transferResult resp)).length =
      1 + Format.varintSize resp.sessionId.toNat + 2 + 1 +
        (Format.varintSize resp.data.length + resp.data.length) +
        Format.varintSize resp.bytesTransferred.toNat +
        (Format.string.option.write resp.errorMessage).length := by
  show ([13] ++ (Format.writeVarint resp.sessionId.toNat ++
    (([resp.deviceId.busNumber] ++ [resp.deviceId.address]) ++
      ([if resp.success then (1 : UInt8) else 0] ++
        ((Format.writeVarint resp.data.length ++ resp.data) ++
          (Format.writeVarint resp.bytesTransferred.toNat ++
            Format.string.option.write resp.errorMessage)))))).length = _
  simp only [List.length_append, Format.writeVarint_length, List.length_singleton]
  omega

theorem standard_documentedSize : standard.DocumentedSize := by
  intro resp hnone hdata
  have hfits : message.fits (.transferResult resp) = true := by
    have hs : resp.sessionId.toNat < 256 ^ 8 := resp.sessionId.toNat_lt
    have hn : resp.bytesTransferred.toNat < 256 ^ 4 := resp.bytesTransferred.toNat_lt
    have hd : resp.data.length < 256 ^ 8 := hdata
    show (decide (resp.sessionId.toNat < 256 ^ 8) && (true && (true &&
      (decide (resp.data.length < 256 ^ 8) && (decide (resp.bytesTransferred.toNat < 256 ^ 4) &&
        Format.string.option.fits resp.errorMessage))))) = true
    rw [hnone, decide_eq_true hs, decide_eq_true hn, decide_eq_true hd]
    rfl
  refine ⟨message.write (.transferResult resp), if_pos hfits, ?_⟩
  rw [standard_transferResult, hnone]
  rfl

/-- A ControlTransfer is encoded in little more than its data. -/
theorem standard_controlTransfer (req : ControlTransferRequest)
    (hdata : req.data.length < 2 ^ 64) :
    ∃ payload, standard.encodeToVec (.controlTransfer req) = .ok payload ∧
      payload.length ≤ req.data.length + 59 := by
  have hfits : message.fits (.controlTransfer req) = true := by
    have hs : req.sessionId.toNat < 256 ^ 8 := req.sessionId.toNat_lt
    have hv : req.value.toNat < 256 ^ 2 := req.value.toNat_lt
    have hi : req.index.toNat < 256 ^ 2 := req.index.toNat_lt
    have hd : req.data.length < 256 ^ 8 := hdata
    have hl : req.length.toNat < 256 ^ 2 := req.length.toNat_lt
    have ht : req.timeoutMs.toNat < 256 ^ 8 := req.timeoutMs.toNat_lt
    show (decide (req.sessionId.toNat < 256 ^ 8) && (true && (true && (true &&
      (decide (req.value.toNat < 256 ^ 2) && (decide (req.index.toNat < 256 ^ 2) &&
        (decide (req.data.length < 256 ^ 8) && (decide (req.length.toNat < 256 ^ 2) &&
          decide (req.timeoutMs.toNat < 256 ^ 8))))))))) = true
    rw [decide_eq_true hs, decide_eq_true hv, decide_eq_true hi, decide_eq_true hd,
      decide_eq_true hl, decide_eq_true ht]
    rfl
  refine ⟨message.write (.controlTransfer req), if_pos hfits, ?_⟩
  show ([10] ++ (Format.writeVarint req.sessionId.toNat ++
    (([req.deviceId.busNumber] ++ [req.deviceId.address]) ++ ([req.requestType] ++
      ([req.request] ++ (Format.writeVarint req.value.toNat ++
        (Format.writeVarint req.index.toNat ++
          ((Format.writeVarint req.data.length ++ req.data) ++
            (Format.writeVarint req.length.toNat ++
              Format.writeVarint req.timeoutMs.toNat))))))))).length ≤ _
  have hs := Format.varintSize_le req.sessionId.toNat
  have hv := Format.varintSize_le req.value.toNat
  have hi := Format.varintSize_le req.index.toNat
  have hd := Format.varintSize_le req.data.length
  have hl := Format.varintSize_le req.length.toNat
  have ht := Format.varintSize_le req.timeoutMs.toNat
  simp only [List.length_append, Format.writeVarint_length, List.length_singleton]
  omega

end Bincode

namespace Codec

theorem maxFrameSize_toNat : maxFrameSize.toNat = 16777216 := by decide

end Codec

end WolfUsb
