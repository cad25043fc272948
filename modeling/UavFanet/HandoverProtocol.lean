import UavFanet.ByteUtils
import UavFanet.Primitives

/-! `HandoverProtocol`: the messages of a handover, authenticated with the global bootstrap key. -/
namespace UavFanet.Handover
open Library UavFanet.ByteUtils

abbrev GlobalKey := Key256

structure SlaveKeyBlob where
  uav_index : UInt32 := 0
  cluster_id : UInt32 := 0
  d_i_bytes : ByteBuffer := []
  n_i_bytes : ByteBuffer := []
  e_i_bytes : ByteBuffer := []
  Mi_bytes : ByteBuffer := []
  Ni_bytes : ByteBuffer := []
  deriving DecidableEq,Repr

namespace SlaveKeyBlob

/-- `write_field`: right-aligned in 256 bytes, of which a longer value keeps its first ones. -/
def writeField (v : ByteBuffer) : ByteBuffer :=
  List.replicate (256-min v.length 256) 0 ++ v.take 256

def serialize (blob : SlaveKeyBlob) : ByteBuffer :=
  writeU32BE blob.uav_index ++ writeU32BE blob.cluster_id ++ writeField blob.d_i_bytes ++
    writeField blob.n_i_bytes ++ writeField blob.e_i_bytes ++ writeField blob.Mi_bytes ++
    writeField blob.Ni_bytes

def deserialize (buf : ByteBuffer) : Result SlaveKeyBlob := do
  if buf.length < 1288 then
    .error (.serializationException "SlaveKeyBlob: buffer too small")
  let uav_index ← readU32BE buf 0
  let cluster_id ← readU32BE buf 4
  let d_i_bytes ← read buf 8 256
  let n_i_bytes ← read buf 264 256
  let e_i_bytes ← read buf 520 256
  let Mi_bytes ← read buf 776 256
  let Ni_bytes ← read buf 1032 256
  return { uav_index, cluster_id, d_i_bytes, n_i_bytes, e_i_bytes, Mi_bytes, Ni_bytes }

@[simp] theorem length_writeField (v : ByteBuffer) : (writeField v).length = 256 := by
  simp only [writeField,List.length_append,List.length_replicate,List.length_take]
  omega

@[simp] theorem length_serialize (blob : SlaveKeyBlob) : blob.serialize.length = 1288 := by
  simp [serialize]

/-- The blob with each number filled up to 256 bytes. -/
def filled (blob : SlaveKeyBlob) : SlaveKeyBlob := { blob with
  d_i_bytes := writeField blob.d_i_bytes
  n_i_bytes := writeField blob.n_i_bytes
  e_i_bytes := writeField blob.e_i_bytes
  Mi_bytes := writeField blob.Mi_bytes
  Ni_bytes := writeField blob.Ni_bytes }

theorem writeField_full {v : ByteBuffer} (full : v.length = 256) : writeField v = v := by
  simp [writeField,full,List.take_of_length_le]

@[simp] theorem filled_filled (blob : SlaveKeyBlob) : blob.filled.filled = blob.filled := by
  simp only [filled,writeField_full (length_writeField _)]

@[simp] theorem filled_uav_index (blob : SlaveKeyBlob) : blob.filled.uav_index = blob.uav_index := rfl

theorem deserialize_serialize (blob : SlaveKeyBlob) :
    deserialize blob.serialize = .ok blob.filled := by
  have whole : ¬ blob.serialize.length < 1288 := by
    rw [length_serialize]
    omega
  have layout : blob.serialize = [writeU32BE blob.uav_index,writeU32BE blob.cluster_id,
      writeField blob.d_i_bytes,writeField blob.n_i_bytes,writeField blob.e_i_bytes,
      writeField blob.Mi_bytes,writeField blob.Ni_bytes].flatten := by simp [serialize]
  have uav_index : readU32BE blob.serialize 0 = .ok blob.uav_index := by
    rw [layout]
    exact readU32BE_field (i := 0) rfl rfl
  have cluster_id : readU32BE blob.serialize 4 = .ok blob.cluster_id := by
    rw [layout]
    exact readU32BE_field (i := 1) (by simp [ByteLayout.offsetOf]) rfl
  have d_i : ByteUtils.read blob.serialize 8 256 = .ok (writeField blob.d_i_bytes) := by
    rw [layout]
    exact read_field (i := 2) (by simp [ByteLayout.offsetOf]) rfl (length_writeField _)
  have n_i : ByteUtils.read blob.serialize 264 256 = .ok (writeField blob.n_i_bytes) := by
    rw [layout]
    exact read_field (i := 3) (by simp [ByteLayout.offsetOf]) rfl (length_writeField _)
  have e_i : ByteUtils.read blob.serialize 520 256 = .ok (writeField blob.e_i_bytes) := by
    rw [layout]
    exact read_field (i := 4) (by simp [ByteLayout.offsetOf]) rfl (length_writeField _)
  have Mi : ByteUtils.read blob.serialize 776 256 = .ok (writeField blob.Mi_bytes) := by
    rw [layout]
    exact read_field (i := 5) (by simp [ByteLayout.offsetOf]) rfl (length_writeField _)
  have Ni : ByteUtils.read blob.serialize 1032 256 = .ok (writeField blob.Ni_bytes) := by
    rw [layout]
    exact read_field (i := 6) (by simp [ByteLayout.offsetOf]) rfl (length_writeField _)
  simp only [deserialize,if_neg whole,Result.ok_bind,uav_index,cluster_id,d_i,n_i,e_i,Mi,Ni]
  rfl

end SlaveKeyBlob

def typeNotify : UInt8 := 0x10
def typeSlaveFwd : UInt8 := 0x11
def typeJoinAcc : UInt8 := 0x12
def typeKeyAck : UInt8 := 0x13

def blobAad (type : UInt8) (uav_id new_cluster : UInt32) : ByteBuffer :=
  type :: (writeU32BE uav_id ++ writeU32BE new_cluster)

/-- `BuildNotify`, with the reading of the steady clock and the key drawn for the nonce, of which
the packet carries twelve bytes. -/
def buildNotify (crypto : Primitives) (now_us : UInt64) (nonce_key : Result AesGcmKey)
    (uav_id old_c new_c old_idx : UInt32) (gk : GlobalKey) : Result ByteBuffer := do
  let nonce_key ← nonce_key
  return Hmac.appendHmac crypto gk ([typeNotify] ++ writeU32BE uav_id ++ writeU32BE old_c ++
    writeU32BE new_c ++ writeU32BE old_idx ++ writeU64BE now_us ++ nonce_key.toList.take 12)

/-- What its parser does not read keeps its default. -/
structure NotifyPkt where
  uav_id : UInt32
  old_cluster : UInt32
  new_cluster : UInt32
  old_index : UInt32
  timestamp : UInt64
  nonce : Vector UInt8 16 := Vector.replicate 16 0
  deriving DecidableEq,Repr

def parseNotify (crypto : Primitives) (buf : ByteBuffer) (gk : GlobalKey) :
    Result (Option NotifyPkt) := do
  if buf.length < 69 then return none
  let type ← readU8 buf 0
  if type ≠ typeNotify then return none
  let data := buf.take (buf.length-32)
  if !Hmac.verify crypto gk data (buf.drop (buf.length-32)) then return none
  let uav_id ← readU32BE buf 1
  let old_cluster ← readU32BE buf 5
  let new_cluster ← readU32BE buf 9
  let old_index ← readU32BE buf 13
  let timestamp ← readU64BE buf 17
  return some { uav_id, old_cluster, new_cluster, old_index, timestamp }

/-- `BuildSlaveFwd`, with the draw of the IV. -/
def buildSlaveFwd (crypto : Primitives) (iv : Result GcmIv) (uav_id new_cluster : UInt32)
    (blob : SlaveKeyBlob) (gk : GlobalKey) : Result ByteBuffer := do
  let enc ← AesGcm.encrypt crypto iv gk blob.serialize (blobAad typeSlaveFwd uav_id new_cluster)
  let buf := [typeSlaveFwd] ++ writeU32BE uav_id ++ writeU32BE new_cluster ++ enc.iv.toList ++
    enc.tag.toList ++ writeU32BE (UInt32.ofNat enc.ciphertext.length) ++ enc.ciphertext
  return Hmac.appendHmac crypto gk buf

structure SlaveFwd where
  uav_id : UInt32
  new_cluster : UInt32
  blob : SlaveKeyBlob
  deriving DecidableEq,Repr

/-- `none` where the source returns `false`. The sum `41 + ct_len` is taken in 32 bits. -/
def parseSlaveFwd (crypto : Primitives) (buf : ByteBuffer) (gk : GlobalKey) :
    Result (Option SlaveFwd) := do
  if buf.length < 73 then return none
  let type ← readU8 buf 0
  if type ≠ typeSlaveFwd then return none
  let data := buf.take (buf.length-32)
  if !Hmac.verify crypto gk data (buf.drop (buf.length-32)) then return none
  let uav_id ← readU32BE buf 1
  let new_cluster ← readU32BE buf 5
  let iv ← readArray 12 buf 9
  let tag ← readArray 16 buf 21
  let ct_len ← readU32BE buf 37
  if data.length < (41+ct_len).toNat then return none
  let ct ← read buf 41 ct_len.toNat
  let opened : Result SlaveKeyBlob := do
    let plain ← AesGcm.decrypt crypto gk iv ct tag (blobAad typeSlaveFwd uav_id new_cluster)
    SlaveKeyBlob.deserialize plain
  let blob ← opened.caught
  return blob.map fun blob => { uav_id, new_cluster, blob }

@[simp] theorem length_blobAad (type : UInt8) (uav_id new_cluster : UInt32) :
    (blobAad type uav_id new_cluster).length = 9 := by simp [blobAad]

theorem blob_opens {crypto : Primitives} (inverts : Inverts crypto) {iv : Result GcmIv}
    {gk : GlobalKey} {blob : SlaveKeyBlob} {type : UInt8} {uav_id new_cluster : UInt32}
    {enc : AesGcm.AesGcmResult}
    (encrypted : AesGcm.encrypt crypto iv gk blob.serialize (blobAad type uav_id new_cluster) =
      .ok enc) :
    enc.ciphertext.length < 2^31 ∧
    (UInt32.ofNat enc.ciphertext.length).toNat = enc.ciphertext.length ∧
    AesGcm.decrypt crypto gk enc.iv enc.ciphertext enc.tag (blobAad type uav_id new_cluster) =
      .ok blob.serialize := by
  have aad_short : (blobAad type uav_id new_cluster).length < 2^31 := by
    rw [length_blobAad]
    omega
  have short := AesGcm.length_ciphertext encrypted inverts aad_short
  refine ⟨short,UInt32.toNat_ofNat_of_lt' (by rw [UInt32.size]; omega),?_⟩
  exact AesGcm.decrypt_same encrypted inverts aad_short
    (blob.length_serialize.trans_lt (by omega))

theorem parseSlaveFwd_buildSlaveFwd {crypto : Primitives} (inverts : Inverts crypto)
    {iv : Result GcmIv} {uav_id new_cluster : UInt32} {blob : SlaveKeyBlob} {gk : GlobalKey}
    {wire : ByteBuffer} (built : buildSlaveFwd crypto iv uav_id new_cluster blob gk = .ok wire) :
    parseSlaveFwd crypto wire gk = .ok (some { uav_id, new_cluster, blob := blob.filled }) := by
  obtain ⟨enc,encrypted,built⟩ := Result.bind_ok.mp built
  cases built
  obtain ⟨short,ct_len,opens⟩ := blob_opens inverts encrypted
  generalize data_eq : [typeSlaveFwd] ++ writeU32BE uav_id ++ writeU32BE new_cluster ++
    enc.iv.toList ++ enc.tag.toList ++ writeU32BE (UInt32.ofNat enc.ciphertext.length) ++
    enc.ciphertext = data
  have size : data.length = 41+enc.ciphertext.length := by
    rw [← data_eq]
    simp
    omega
  have whole : (Hmac.appendHmac crypto gk data).length = 73+enc.ciphertext.length := by
    rw [Hmac.length_appendHmac,size]
    omega
  have layout : Hmac.appendHmac crypto gk data = [[typeSlaveFwd],writeU32BE uav_id,
      writeU32BE new_cluster,enc.iv.toList,enc.tag.toList,
      writeU32BE (UInt32.ofNat enc.ciphertext.length),enc.ciphertext,
      (Hmac.compute crypto gk data).toList].flatten := by
    rw [Hmac.appendHmac,← data_eq]
    simp
  have type : readU8 (Hmac.appendHmac crypto gk data) 0 = .ok typeSlaveFwd := by
    rw [layout]
    exact readU8_field (i := 0) rfl rfl
  have uav : readU32BE (Hmac.appendHmac crypto gk data) 1 = .ok uav_id := by
    rw [layout]
    exact readU32BE_field (i := 1) (by simp [ByteLayout.offsetOf]) rfl
  have cluster : readU32BE (Hmac.appendHmac crypto gk data) 5 = .ok new_cluster := by
    rw [layout]
    exact readU32BE_field (i := 2) (by simp [ByteLayout.offsetOf]) rfl
  have drawn : readArray 12 (Hmac.appendHmac crypto gk data) 9 = .ok enc.iv := by
    rw [layout]
    exact readArray_field (i := 3) (by simp [ByteLayout.offsetOf]) rfl
  have tag : readArray 16 (Hmac.appendHmac crypto gk data) 21 = .ok enc.tag := by
    rw [layout]
    exact readArray_field (i := 4) (by simp [ByteLayout.offsetOf]) rfl
  have counted : readU32BE (Hmac.appendHmac crypto gk data) 37 =
      .ok (UInt32.ofNat enc.ciphertext.length) := by
    rw [layout]
    exact readU32BE_field (i := 5) (by simp [ByteLayout.offsetOf]) rfl
  have ct : ByteUtils.read (Hmac.appendHmac crypto gk data) 41 enc.ciphertext.length =
      .ok enc.ciphertext := by
    rw [layout]
    exact read_field (i := 6) (by simp [ByteLayout.offsetOf]) rfl rfl
  have long : ¬ (Hmac.appendHmac crypto gk data).length < 73 := by omega
  have complete : ¬ data.length < (41+UInt32.ofNat enc.ciphertext.length).toNat := by
    rw [UInt32.toNat_add,ct_len,size,show (41 : UInt32).toNat = 41 from rfl]
    omega
  simp only [parseSlaveFwd,if_neg long,type,Hmac.take_appendHmac,Hmac.verify_appendHmac,
    Bool.not_true,Bool.false_eq_true,if_false,ne_eq,not_true_eq_false,uav,cluster,drawn,tag,
    counted,if_neg complete,ct_len,ct,Result.ok_bind,opens,SlaveKeyBlob.deserialize_serialize,
    Result.caught]
  rfl

/-- `BuildJoinAccept`, with the draw of the IV and the reading of the steady clock. -/
def buildJoinAccept (crypto : Primitives) (iv : Result GcmIv) (now_us : UInt64)
    (uav_id new_cluster new_index : UInt32) (blob : SlaveKeyBlob) (gk : GlobalKey) :
    Result ByteBuffer := do
  let enc ← AesGcm.encrypt crypto iv gk blob.serialize (blobAad typeJoinAcc uav_id new_cluster)
  let buf := [typeJoinAcc] ++ writeU32BE uav_id ++ writeU32BE new_cluster ++ writeU32BE new_index ++
    enc.iv.toList ++ enc.tag.toList ++ writeU32BE (UInt32.ofNat enc.ciphertext.length) ++
    enc.ciphertext ++ writeU64BE now_us
  return Hmac.appendHmac crypto gk buf

structure JoinAccept where
  uav_id : UInt32
  new_cluster : UInt32
  new_index : UInt32
  blob : SlaveKeyBlob
  deriving DecidableEq,Repr

/-- `none` where the source returns `false`. The sum `45 + ct_len` is taken in 32 bits. -/
def parseJoinAccept (crypto : Primitives) (buf : ByteBuffer) (gk : GlobalKey) :
    Result (Option JoinAccept) := do
  if buf.length < 85 then return none
  let type ← readU8 buf 0
  if type ≠ typeJoinAcc then return none
  let data := buf.take (buf.length-32)
  if !Hmac.verify crypto gk data (buf.drop (buf.length-32)) then return none
  let uav_id ← readU32BE buf 1
  let new_cluster ← readU32BE buf 5
  let new_index ← readU32BE buf 9
  let iv ← readArray 12 buf 13
  let tag ← readArray 16 buf 25
  let ct_len ← readU32BE buf 41
  if data.length < (45+ct_len).toNat then return none
  let ct ← read buf 45 ct_len.toNat
  let opened : Result SlaveKeyBlob := do
    let plain ← AesGcm.decrypt crypto gk iv ct tag (blobAad typeJoinAcc uav_id new_cluster)
    SlaveKeyBlob.deserialize plain
  let blob ← opened.caught
  return blob.map fun blob => { uav_id, new_cluster, new_index, blob }

theorem parseJoinAccept_buildJoinAccept {crypto : Primitives} (inverts : Inverts crypto)
    {iv : Result GcmIv} {now_us : UInt64} {uav_id new_cluster new_index : UInt32}
    {blob : SlaveKeyBlob} {gk : GlobalKey} {wire : ByteBuffer}
    (built : buildJoinAccept crypto iv now_us uav_id new_cluster new_index blob gk = .ok wire) :
    parseJoinAccept crypto wire gk =
      .ok (some { uav_id, new_cluster, new_index, blob := blob.filled }) := by
  obtain ⟨enc,encrypted,built⟩ := Result.bind_ok.mp built
  cases built
  obtain ⟨short,ct_len,opens⟩ := blob_opens inverts encrypted
  generalize data_eq : [typeJoinAcc] ++ writeU32BE uav_id ++ writeU32BE new_cluster ++
    writeU32BE new_index ++ enc.iv.toList ++ enc.tag.toList ++
    writeU32BE (UInt32.ofNat enc.ciphertext.length) ++ enc.ciphertext ++ writeU64BE now_us = data
  have size : data.length = 53+enc.ciphertext.length := by
    rw [← data_eq]
    simp
    omega
  have whole : (Hmac.appendHmac crypto gk data).length = 85+enc.ciphertext.length := by
    rw [Hmac.length_appendHmac,size]
    omega
  have layout : Hmac.appendHmac crypto gk data = [[typeJoinAcc],writeU32BE uav_id,
      writeU32BE new_cluster,writeU32BE new_index,enc.iv.toList,enc.tag.toList,
      writeU32BE (UInt32.ofNat enc.ciphertext.length),enc.ciphertext,writeU64BE now_us,
      (Hmac.compute crypto gk data).toList].flatten := by
    rw [Hmac.appendHmac,← data_eq]
    simp
  have type : readU8 (Hmac.appendHmac crypto gk data) 0 = .ok typeJoinAcc := by
    rw [layout]
    exact readU8_field (i := 0) rfl rfl
  have uav : readU32BE (Hmac.appendHmac crypto gk data) 1 = .ok uav_id := by
    rw [layout]
    exact readU32BE_field (i := 1) (by simp [ByteLayout.offsetOf]) rfl
  have cluster : readU32BE (Hmac.appendHmac crypto gk data) 5 = .ok new_cluster := by
    rw [layout]
    exact readU32BE_field (i := 2) (by simp [ByteLayout.offsetOf]) rfl
  have index : readU32BE (Hmac.appendHmac crypto gk data) 9 = .ok new_index := by
    rw [layout]
    exact readU32BE_field (i := 3) (by simp [ByteLayout.offsetOf]) rfl
  have drawn : readArray 12 (Hmac.appendHmac crypto gk data) 13 = .ok enc.iv := by
    rw [layout]
    exact readArray_field (i := 4) (by simp [ByteLayout.offsetOf]) rfl
  have tag : readArray 16 (Hmac.appendHmac crypto gk data) 25 = .ok enc.tag := by
    rw [layout]
    exact readArray_field (i := 5) (by simp [ByteLayout.offsetOf]) rfl
  have counted : readU32BE (Hmac.appendHmac crypto gk data) 41 =
      .ok (UInt32.ofNat enc.ciphertext.length) := by
    rw [layout]
    exact readU32BE_field (i := 6) (by simp [ByteLayout.offsetOf]) rfl
  have ct : ByteUtils.read (Hmac.appendHmac crypto gk data) 45 enc.ciphertext.length =
      .ok enc.ciphertext := by
    rw [layout]
    exact read_field (i := 7) (by simp [ByteLayout.offsetOf]) rfl rfl
  have long : ¬ (Hmac.appendHmac crypto gk data).length < 85 := by omega
  have complete : ¬ data.length < (45+UInt32.ofNat enc.ciphertext.length).toNat := by
    rw [UInt32.toNat_add,ct_len,size,show (45 : UInt32).toNat = 45 from rfl]
    omega
  simp only [parseJoinAccept,if_neg long,type,Hmac.take_appendHmac,Hmac.verify_appendHmac,
    Bool.not_true,Bool.false_eq_true,if_false,ne_eq,not_true_eq_false,uav,cluster,index,drawn,tag,
    counted,if_neg complete,ct_len,ct,Result.ok_bind,opens,SlaveKeyBlob.deserialize_serialize,
    Result.caught]
  rfl

/-- `BuildKeyAck`, with the reading of the steady clock. -/
def buildKeyAck (crypto : Primitives) (now_us : UInt64) (uav_id new_cluster new_index : UInt32)
    (gk : GlobalKey) : ByteBuffer :=
  Hmac.appendHmac crypto gk ([typeKeyAck] ++ writeU32BE uav_id ++ writeU32BE new_cluster ++
    writeU32BE new_index ++ writeU64BE now_us)

structure SlaveAckPkt where
  uav_id : UInt32
  new_cluster : UInt32
  new_index : UInt32
  timestamp : UInt64
  nonce : Vector UInt8 16 := Vector.replicate 16 0
  deriving DecidableEq,Repr

def parseKeyAck (crypto : Primitives) (buf : ByteBuffer) (gk : GlobalKey) :
    Result (Option SlaveAckPkt) := do
  if buf.length < 53 then return none
  let type ← readU8 buf 0
  if type ≠ typeKeyAck then return none
  let data := buf.take (buf.length-32)
  if !Hmac.verify crypto gk data (buf.drop (buf.length-32)) then return none
  let uav_id ← readU32BE buf 1
  let new_cluster ← readU32BE buf 5
  let new_index ← readU32BE buf 9
  let timestamp ← readU64BE buf 13
  return some { uav_id, new_cluster, new_index, timestamp }

theorem parseNotify_buildNotify {crypto : Primitives} {now_us : UInt64}
    {nonce_key : Result AesGcmKey} {uav_id old_c new_c old_idx : UInt32} {gk : GlobalKey}
    {wire : ByteBuffer}
    (built : buildNotify crypto now_us nonce_key uav_id old_c new_c old_idx gk = .ok wire) :
    parseNotify crypto wire gk = .ok (some {
      uav_id, old_cluster := old_c, new_cluster := new_c, old_index := old_idx
      timestamp := now_us }) := by
  obtain ⟨drawn,-,built⟩ := Result.bind_ok.mp built
  cases built
  generalize data_eq : [typeNotify] ++ writeU32BE uav_id ++ writeU32BE old_c ++
    writeU32BE new_c ++ writeU32BE old_idx ++ writeU64BE now_us ++ drawn.toList.take 12 = data
  have long : ¬ (Hmac.appendHmac crypto gk data).length < 69 := by
    rw [Hmac.length_appendHmac,← data_eq]
    simp
  have layout : Hmac.appendHmac crypto gk data = [[typeNotify],writeU32BE uav_id,
      writeU32BE old_c,writeU32BE new_c,writeU32BE old_idx,writeU64BE now_us,
      drawn.toList.take 12,(Hmac.compute crypto gk data).toList].flatten := by
    rw [Hmac.appendHmac,← data_eq]
    simp
  have type : readU8 (Hmac.appendHmac crypto gk data) 0 = .ok typeNotify := by
    rw [layout]
    exact readU8_field (i := 0) rfl rfl
  have uav : readU32BE (Hmac.appendHmac crypto gk data) 1 = .ok uav_id := by
    rw [layout]
    exact readU32BE_field (i := 1) (by simp [ByteLayout.offsetOf]) rfl
  have old_cluster : readU32BE (Hmac.appendHmac crypto gk data) 5 = .ok old_c := by
    rw [layout]
    exact readU32BE_field (i := 2) (by simp [ByteLayout.offsetOf]) rfl
  have cluster : readU32BE (Hmac.appendHmac crypto gk data) 9 = .ok new_c := by
    rw [layout]
    exact readU32BE_field (i := 3) (by simp [ByteLayout.offsetOf]) rfl
  have index : readU32BE (Hmac.appendHmac crypto gk data) 13 = .ok old_idx := by
    rw [layout]
    exact readU32BE_field (i := 4) (by simp [ByteLayout.offsetOf]) rfl
  have stamp : readU64BE (Hmac.appendHmac crypto gk data) 17 = .ok now_us := by
    rw [layout]
    exact readU64BE_field (i := 5) (by simp [ByteLayout.offsetOf]) rfl
  simp only [parseNotify,if_neg long,type,Hmac.take_appendHmac,Hmac.verify_appendHmac,
    Bool.not_true,Bool.false_eq_true,if_false,ne_eq,not_true_eq_false,uav,old_cluster,cluster,
    index,stamp,Result.ok_bind]
  rfl

theorem parseKeyAck_buildKeyAck (crypto : Primitives) (now_us : UInt64)
    (uav_id new_cluster new_index : UInt32) (gk : GlobalKey) :
    parseKeyAck crypto (buildKeyAck crypto now_us uav_id new_cluster new_index gk) gk =
      .ok (some { uav_id, new_cluster, new_index, timestamp := now_us }) := by
  generalize data_eq : [typeKeyAck] ++ writeU32BE uav_id ++ writeU32BE new_cluster ++
    writeU32BE new_index ++ writeU64BE now_us = data
  have long : ¬ (Hmac.appendHmac crypto gk data).length < 53 := by
    rw [Hmac.length_appendHmac,← data_eq]
    simp
  have layout : Hmac.appendHmac crypto gk data = [[typeKeyAck],writeU32BE uav_id,
      writeU32BE new_cluster,writeU32BE new_index,writeU64BE now_us,
      (Hmac.compute crypto gk data).toList].flatten := by
    rw [Hmac.appendHmac,← data_eq]
    simp
  have type : readU8 (Hmac.appendHmac crypto gk data) 0 = .ok typeKeyAck := by
    rw [layout]
    exact readU8_field (i := 0) rfl rfl
  have uav : readU32BE (Hmac.appendHmac crypto gk data) 1 = .ok uav_id := by
    rw [layout]
    exact readU32BE_field (i := 1) (by simp [ByteLayout.offsetOf]) rfl
  have cluster : readU32BE (Hmac.appendHmac crypto gk data) 5 = .ok new_cluster := by
    rw [layout]
    exact readU32BE_field (i := 2) (by simp [ByteLayout.offsetOf]) rfl
  have index : readU32BE (Hmac.appendHmac crypto gk data) 9 = .ok new_index := by
    rw [layout]
    exact readU32BE_field (i := 3) (by simp [ByteLayout.offsetOf]) rfl
  have stamp : readU64BE (Hmac.appendHmac crypto gk data) 13 = .ok now_us := by
    rw [layout]
    exact readU64BE_field (i := 4) (by simp [ByteLayout.offsetOf]) rfl
  rw [buildKeyAck,data_eq]
  simp only [parseKeyAck,if_neg long,type,Hmac.take_appendHmac,Hmac.verify_appendHmac,
    Bool.not_true,Bool.false_eq_true,if_false,ne_eq,not_true_eq_false,uav,cluster,index,stamp,
    Result.ok_bind]
  rfl

section Messages

variable (crypto : Primitives) (iv : GcmIv) (uav_id new_cluster : UInt32) (blob : SlaveKeyBlob)
  (gk : GlobalKey)

theorem buildSlaveFwd_front : ∃ rest,
    buildSlaveFwd crypto (.ok iv) uav_id new_cluster blob gk = .ok (typeSlaveFwd::rest) := by
  obtain ⟨enc,encrypted⟩ := AesGcm.encrypt_short crypto iv gk blob.serialize
    (blobAad typeSlaveFwd uav_id new_cluster) (by simp) (by simp)
  exact ⟨_,by rw [buildSlaveFwd,encrypted]; rfl⟩

theorem buildJoinAccept_front (now_us : UInt64) (new_index : UInt32) : ∃ rest,
    buildJoinAccept crypto (.ok iv) now_us uav_id new_cluster new_index blob gk =
      .ok (typeJoinAcc::rest) := by
  obtain ⟨enc,encrypted⟩ := AesGcm.encrypt_short crypto iv gk blob.serialize
    (blobAad typeJoinAcc uav_id new_cluster) (by simp) (by simp)
  exact ⟨_,by rw [buildJoinAccept,encrypted]; rfl⟩

end Messages

end UavFanet.Handover
