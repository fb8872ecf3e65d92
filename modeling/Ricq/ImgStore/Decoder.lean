import Ricq.Bytes

/-!
# The group image store response

`decode_group_image_store_response` (`ricq-core/src/command/img_store/decoder.rs:9-45`)
decodes a `D388RspBody`, pops the last entry of `tryup_img_rsp`, fails on a nonzero `result`
with the entry's `fail_msg`, and otherwise reports the image as stored or to upload, with the
upload addresses paired from `up_ip` and `up_port`.

* `decodeGroupImageStoreResponse_of_last`: only the last entry is read; the entries before it
  never change the outcome.
* `getElem?_zipAddrs`: the `i`-th address is the `i`-th ip with the `i`-th port cut to 16 bits,
  for as many addresses as the shorter list has entries.
-/

namespace Ricq.ImgStore

/-- The fields of an entry of `tryup_img_rsp` the decoder reads; `result`, `file_exit` and the
`Option`s are the protobuf's optional fields, read with their defaults. -/
structure TryUpImgRsp where
  result : Option Nat
  failMsg : Option Bytes
  fileExit : Option Bool
  fileid : Option Nat
  upIp : List Nat
  upPort : List Nat
  upUkey : Option Bytes
  deriving DecidableEq, Repr

/-- Modelled from the spec: `RQError` is outside `src/`; this decoder returns the protobuf
decoder's error, or `Other` with a message. -/
inductive ImgStoreError where
  | decode
  | other (message : String)
  deriving DecidableEq, Repr

/-- `RQAddr(ip, port)`: a `u32` address and a `u16` port. -/
structure RQAddr where
  ip : Nat
  port : Nat
  deriving DecidableEq, Repr

/-- `GroupImageStoreResp`. -/
inductive GroupImageStoreResp where
  | exist (fileId : Nat) (addrs : List RQAddr)
  | notExist (fileId : Nat) (uploadKey : Bytes) (uploadAddrs : List RQAddr)
  deriving DecidableEq, Repr

/-- `up_ip.into_iter().zip(up_port).map(|(ip, port)| RQAddr(ip, port as u16))`. -/
def zipAddrs (upIp upPort : List Nat) : List RQAddr :=
  (upIp.zip upPort).map fun (ip, port) => ⟨ip, port % 2 ^ 16⟩

/-- `decode_group_image_store_response`: `fromBytes` is `D388RspBody::from_bytes`, read for
its `tryup_img_rsp`, and `fromUtf8Lossy` is `String::from_utf8_lossy`. -/
def decodeGroupImageStoreResponse (fromBytes : Bytes → Option (List TryUpImgRsp))
    (fromUtf8Lossy : Bytes → String) (payload : Bytes) :
    Except ImgStoreError GroupImageStoreResp := do
  let some rsps := fromBytes payload | throw .decode
  let some rsp := rsps.getLast? | throw (.other "tryup_img_rsp.len = 0")
  if rsp.result.getD 0 ≠ 0 then throw (.other (fromUtf8Lossy (rsp.failMsg.getD [])))
  else pure <| if rsp.fileExit.getD false then
      .exist (rsp.fileid.getD 0) (zipAddrs rsp.upIp rsp.upPort)
    else .notExist (rsp.fileid.getD 0) (rsp.upUkey.getD []) (zipAddrs rsp.upIp rsp.upPort)

@[simp] theorem length_zipAddrs (upIp upPort : List Nat) :
    (zipAddrs upIp upPort).length = min upIp.length upPort.length := by
  simp [zipAddrs]

theorem getElem?_zipAddrs (upIp upPort : List Nat) (i : Nat) :
    (zipAddrs upIp upPort)[i]? =
      upIp[i]?.bind fun ip => upPort[i]?.map fun port => ⟨ip, port % 2 ^ 16⟩ := by
  simp only [zipAddrs, List.getElem?_map, List.zip, List.getElem?_zipWith']
  cases upIp[i]? <;> cases upPort[i]? <;> rfl

/-- The outcome once the body decodes: only its last entry is read. -/
theorem decodeGroupImageStoreResponse_of_last {fromBytes : Bytes → Option (List TryUpImgRsp)}
    {fromUtf8Lossy : Bytes → String} {payload : Bytes} {rsps : List TryUpImgRsp}
    {rsp : TryUpImgRsp} (h : fromBytes payload = some (rsps ++ [rsp])) :
    decodeGroupImageStoreResponse fromBytes fromUtf8Lossy payload =
      if rsp.result.getD 0 ≠ 0 then .error (.other (fromUtf8Lossy (rsp.failMsg.getD [])))
      else .ok (if rsp.fileExit.getD false then
          .exist (rsp.fileid.getD 0) (zipAddrs rsp.upIp rsp.upPort)
        else
          .notExist (rsp.fileid.getD 0) (rsp.upUkey.getD []) (zipAddrs rsp.upIp rsp.upPort)) := by
  simp [decodeGroupImageStoreResponse, h]
  rfl

end Ricq.ImgStore
