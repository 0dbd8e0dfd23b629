/-
The envelope of a packet: `SendPacket` encrypts it, `ProcessIncomingPacket`
decrypts it.

In front stands the tag of the relay, or of the call for a peer before version
9.  With the second version of the protocol the length, the data and at least
sixteen random bytes are encrypted under a key that is derived from their hash;
with the first one only the length and the data are hashed, and the text is
padded to whole blocks.  The two ends derive their keys from different parts of
the common one.  The cryptography itself is outside.
-/

import Mathlib.Algebra.Group.Nat.Defs
import Tg2Sip.Voip.Header

namespace Tg2Sip.Voip

structure Crypto where
  sha1 : Bytes → Bytes
  sha256 : Bytes → Bytes
  aesIgeEncrypt : Bytes → Bytes → Bytes → Bytes
  aesIgeDecrypt : Bytes → Bytes → Bytes → Bytes

/-- The widths of the hashes, and the cipher on whole blocks. -/
structure Crypto.Lawful (crypto : Crypto) : Prop where
  sha1_length : ∀ data, (crypto.sha1 data).length = 20
  sha256_length : ∀ data, (crypto.sha256 data).length = 32
  encrypt_length : ∀ text key iv, text.length % 16 = 0 →
    (crypto.aesIgeEncrypt text key iv).length = text.length
  decrypt_encrypt : ∀ text key iv, text.length % 16 = 0 → key.length = 32 → iv.length = 32 →
    crypto.aesIgeDecrypt (crypto.aesIgeEncrypt text key iv) key iv = text

structure Cipher where
  crypto : Crypto
  encryptionKey : Bytes
  encryptionKey_length : encryptionKey.length = 256
  isOutgoing : Bool

/-- The endpoint a packet goes to or comes from. -/
structure PacketEndpoint where
  isRelay : Bool
  peerTag : Bytes
  peerTag_length : peerTag.length = 16

/-- The bytes that `rand_bytes` gives for the padding. -/
structure PaddingNonce where
  bytes : Bytes
  bytes_length : bytes.length = 32

namespace Cipher

def part (self : Cipher) (offset count : Nat) : Bytes := (self.encryptionKey.drop offset).take count

def keyFingerprint (self : Cipher) : Bytes := (self.crypto.sha1 self.encryptionKey).drop 12

/-- `KDF`: the key and the initialization vector. -/
def kdf (self : Cipher) (msgKey : Bytes) (x : Nat) : Bytes × Bytes :=
  let sA := self.crypto.sha1 (msgKey ++ self.part x 32)
  let sB := self.crypto.sha1 (self.part (32 + x) 16 ++ msgKey ++ self.part (48 + x) 16)
  let sC := self.crypto.sha1 (self.part (64 + x) 32 ++ msgKey)
  let sD := self.crypto.sha1 (msgKey ++ self.part (96 + x) 32)
  (sA.take 8 ++ (sB.drop 8).take 12 ++ (sC.drop 4).take 12,
    (sA.drop 8).take 12 ++ sB.take 8 ++ (sC.drop 16).take 4 ++ sD.take 8)

def kdf2 (self : Cipher) (msgKey : Bytes) (x : Nat) : Bytes × Bytes :=
  let sA := self.crypto.sha256 (msgKey ++ self.part x 36)
  let sB := self.crypto.sha256 (self.part (40 + x) 36 ++ msgKey)
  (sA.take 8 ++ (sB.drop 8).take 16 ++ (sA.drop 24).take 8,
    sB.take 8 ++ (sA.drop 8).take 16 ++ (sB.drop 24).take 8)

def messageKey (self : Cipher) (x : Nat) (text : Bytes) : Bytes :=
  ((self.crypto.sha256 (self.part (88 + x) 32 ++ text)).drop 8).take 16

def messageHash (self : Cipher) (text : Bytes) : Bytes := (self.crypto.sha1 text).drop 4

def sendingX (self : Cipher) : Nat := if self.isOutgoing then 0 else 8

def receivingX (self : Cipher) : Nat := if self.isOutgoing then 8 else 0

end Cipher

def writtenTag (peering : Peering) (endpoint : PacketEndpoint) : Bytes :=
  if endpoint.isRelay then endpoint.peerTag
  else if peering.peerVersion < 9 then peering.callID
  else []

/-- The length of the padding in the second version. -/
def padLength2 (length : Nat) : Nat :=
  let padLen := 16 - length % 16
  if padLen < 16 then padLen + 16 else padLen

def padLength1 (length : Nat) : Nat := if length % 16 ≠ 0 then 16 - length % 16 else 0

def lengthField (shortFormat : Bool) (length : Nat) : Bytes :=
  if shortFormat then LittleEndian.bytes 2 (BitVec.ofNat 16 length)
  else LittleEndian.bytes 4 (BitVec.ofNat 32 length)

/-- `sizeSize`: the length is part of the hash in the short format. -/
def sizeSize (shortFormat : Bool) : Nat := if shortFormat then 0 else 4

def inner2 (shortFormat : Bool) (padding : PaddingNonce) (data : Bytes) : Bytes :=
  let written := lengthField shortFormat data.length ++ data
  written ++ padding.bytes.take (padLength2 written.length)

def inner1 (padding : PaddingNonce) (data : Bytes) : Bytes :=
  let written := lengthField false data.length ++ data
  written ++ padding.bytes.take (padLength1 written.length)

def Cipher.seal2 (self : Cipher) (shortFormat : Bool) (padding : PaddingNonce) (data : Bytes) :
    Bytes :=
  let inner := inner2 shortFormat padding data
  let msgKey := self.messageKey self.sendingX (inner.drop (sizeSize shortFormat))
  let (key, iv) := self.kdf2 msgKey self.sendingX
  (if shortFormat then [] else self.keyFingerprint) ++ msgKey ++
    self.crypto.aesIgeEncrypt inner key iv

def Cipher.seal1 (self : Cipher) (padding : PaddingNonce) (data : Bytes) : Bytes :=
  let inner := inner1 padding data
  let msgHash := self.messageHash (inner.take (data.length + 4))
  let (key, iv) := self.kdf msgHash self.sendingX
  self.keyFingerprint ++ msgHash ++ self.crypto.aesIgeEncrypt inner key iv

/-- The part behind the tag. -/
def Cipher.seal (self : Cipher) (shortFormat useMTProto2 : Bool) (padding : PaddingNonce)
    (data : Bytes) : Bytes :=
  if useMTProto2 then self.seal2 shortFormat padding data else self.seal1 padding data

/-- `SendPacket`: what goes to the socket. -/
def Cipher.sendPacket (self : Cipher) (peering : Peering) (useMTProto2 : Bool)
    (endpoint : PacketEndpoint) (padding : PaddingNonce) (data : Bytes) : Bytes :=
  writtenTag peering endpoint ++
    if data.length > 0 then self.seal peering.shortFormat useMTProto2 padding data else []

/-- Why a packet is dropped before its header is read. -/
inductive Refused where
  | wrongTag
  | relayResponse
  | tooSmall
  | outOfRange
  | wrongFingerprint
  | tooLong
  | wrongLength
  | wrongHash
  | wrongInnerLength
  | littlePadding
  deriving DecidableEq, Repr

/-- What the header is read from, `innerLen`, and the version from now on. -/
structure Opened where
  text : Bytes
  innerLen : Nat
  useMTProto2 : Bool
  deriving DecidableEq, Repr

def expectsTag (peering : Peering) (endpoint : PacketEndpoint) : Bool :=
  decide (peering.peerVersion < 9) || endpoint.isRelay

def expectedTag (peering : Peering) (endpoint : PacketEndpoint) : Bytes :=
  if endpoint.isRelay then endpoint.peerTag else peering.callID

/-- The length in front of the decrypted text, as it is converted to 32 bits. -/
def readInnerLen (shortFormat : Bool) (decrypted : Bytes) : Nat :=
  if shortFormat then ((LittleEndian.value 16 (decrypted.take 2)).signExtend 32).toNat
  else (LittleEndian.value 32 (decrypted.take 4)).toNat

/-- The end of the second version: the decrypted text is checked. -/
def Cipher.check2 (self : Cipher) (shortFormat : Bool) (msgKey decrypted : Bytes) :
    Except Refused Opened :=
  if msgKey ≠ self.messageKey self.receivingX (decrypted.drop (sizeSize shortFormat)) then
    .error .wrongHash
  else if decrypted.length < (lengthField shortFormat 0).length then .error .outOfRange
  else
    let innerLen := readInnerLen shortFormat decrypted
    if innerLen > decrypted.length - sizeSize shortFormat then .error .wrongInnerLength
    else if decrypted.length - innerLen < (if shortFormat then 16 else 12) then
      .error .littlePadding
    else .ok
      { text := (decrypted.drop (lengthField shortFormat 0).length).take innerLen
        innerLen := innerLen
        useMTProto2 := true }

/-- The second version, from `msgKey` on. -/
def Cipher.decrypt2 (self : Cipher) (shortFormat : Bool) (rest : Bytes) : Except Refused Opened :=
  if rest.length < 16 then .error .outOfRange
  else
    let msgKey := rest.take 16
    let encrypted := rest.drop 16
    let (key, iv) := self.kdf2 msgKey self.receivingX
    if encrypted.length > 1500 then .error .tooLong
    else if encrypted.length % 16 ≠ 0 then .error .wrongLength
    else self.check2 shortFormat msgKey (self.crypto.aesIgeDecrypt encrypted key iv)

def Cipher.open2 (self : Cipher) (shortFormat : Bool) (rest : Bytes) : Except Refused Opened :=
  if shortFormat then self.decrypt2 true rest
  else if rest.length < 8 then .error .outOfRange
  else if rest.take 8 ≠ self.keyFingerprint then .error .wrongFingerprint
  else self.decrypt2 false (rest.drop 8)

/-- The first version: the decrypted text, if its hash is the one that was sent. -/
def Cipher.open1 (self : Cipher) (rest : Bytes) : Option Bytes :=
  let msgHash := (rest.drop 8).take 16
  let (key, iv) := self.kdf msgHash self.receivingX
  let decrypted := self.crypto.aesIgeDecrypt (rest.drop 24) key iv
  let len := min (LittleEndian.value 32 (decrypted.take 4)).toNat (decrypted.length - 4)
  if msgHash = self.messageHash (decrypted.take (len + 4)) then some decrypted else none

/-- `ProcessIncomingPacket` up to the header.  The fallback to the second
version goes back to the place behind the tag; without a tag it goes on where
the first version stopped. -/
def Cipher.openPacket (self : Cipher) (peering : Peering) (useMTProto2 : Bool)
    (endpoint : PacketEndpoint) (buffer : Bytes) : Except Refused Opened :=
  let hasPeerTag := expectsTag peering endpoint
  if hasPeerTag ∧ buffer.take 16 ≠ expectedTag peering endpoint then .error .wrongTag
  else
    let rest := if hasPeerTag then buffer.drop 16 else buffer
    if rest.length ≥ 16 ∧ endpoint.isRelay ∧ rest.take 12 = List.replicate 12 255 then
      .error .relayResponse
    else if rest.length < 40 then .error .tooSmall
    else if useMTProto2 then self.open2 peering.shortFormat rest
    else
      match self.open1 rest with
      | some decrypted => .ok ⟨decrypted.drop 4, 0, false⟩
      | none =>
          if peering.waiting then
            self.open2 peering.shortFormat (if hasPeerTag then rest else rest.drop 24)
          else .error .wrongHash

/-- The ends of a call have one key, and each sends with the part that the
other receives with. -/
structure Cipher.Matches (sender receiver : Cipher) : Prop where
  crypto : receiver.crypto = sender.crypto
  key : receiver.encryptionKey = sender.encryptionKey
  roles : receiver.isOutgoing = !sender.isOutgoing

section Ends

variable {sender receiver : Cipher} {padding : PaddingNonce} {data msgKey text : Bytes}
  {shortFormat : Bool} {x : Nat}

theorem Cipher.Matches.part (matched : sender.Matches receiver) (offset count : Nat) :
    receiver.part offset count = sender.part offset count := by
  unfold Cipher.part
  rw [matched.key]

theorem Cipher.Matches.turned (matched : sender.Matches receiver) :
    receiver.receivingX = sender.sendingX := by
  unfold Cipher.receivingX Cipher.sendingX
  rw [matched.roles]
  cases sender.isOutgoing with
  | true => rfl
  | false => rfl

theorem Cipher.Matches.kdf (matched : sender.Matches receiver) :
    receiver.kdf msgKey x = sender.kdf msgKey x := by
  unfold Cipher.kdf
  simp only [matched.part, matched.crypto]

theorem Cipher.Matches.kdf2 (matched : sender.Matches receiver) :
    receiver.kdf2 msgKey x = sender.kdf2 msgKey x := by
  unfold Cipher.kdf2
  simp only [matched.part, matched.crypto]

theorem Cipher.Matches.messageKey (matched : sender.Matches receiver) :
    receiver.messageKey x text = sender.messageKey x text := by
  unfold Cipher.messageKey
  rw [matched.part, matched.crypto]

theorem Cipher.Matches.messageHash (matched : sender.Matches receiver) :
    receiver.messageHash text = sender.messageHash text := by
  unfold Cipher.messageHash
  rw [matched.crypto]

theorem Cipher.Matches.keyFingerprint (matched : sender.Matches receiver) :
    receiver.keyFingerprint = sender.keyFingerprint := by
  unfold Cipher.keyFingerprint
  rw [matched.crypto, matched.key]

/-! ### Widths -/

theorem keyFingerprint_length (lawful : sender.crypto.Lawful) :
    sender.keyFingerprint.length = 8 := by
  unfold Cipher.keyFingerprint
  rw [List.length_drop, lawful.sha1_length]

theorem messageKey_length (lawful : sender.crypto.Lawful) :
    (sender.messageKey x text).length = 16 := by
  unfold Cipher.messageKey
  rw [List.length_take, List.length_drop, lawful.sha256_length]
  rfl

theorem messageHash_length (lawful : sender.crypto.Lawful) (text : Bytes) :
    (sender.messageHash text).length = 16 := by
  unfold Cipher.messageHash
  rw [List.length_drop, lawful.sha1_length]

theorem kdf_length (lawful : sender.crypto.Lawful) (msgKey : Bytes) (x : Nat) :
    (sender.kdf msgKey x).1.length = 32 ∧ (sender.kdf msgKey x).2.length = 32 := by
  unfold Cipher.kdf
  dsimp only
  simp only [List.length_append, List.length_take, List.length_drop, lawful.sha1_length]
  exact ⟨rfl, rfl⟩

theorem kdf2_length (lawful : sender.crypto.Lawful) (msgKey : Bytes) (x : Nat) :
    (sender.kdf2 msgKey x).1.length = 32 ∧ (sender.kdf2 msgKey x).2.length = 32 := by
  unfold Cipher.kdf2
  dsimp only
  simp only [List.length_append, List.length_take, List.length_drop, lawful.sha256_length]
  exact ⟨rfl, rfl⟩

theorem lengthField_length (shortFormat : Bool) (length : Nat) :
    (lengthField shortFormat length).length = if shortFormat then 2 else 4 := by
  unfold lengthField
  cases shortFormat with
  | true => exact LittleEndian.length_bytes 2 _
  | false => exact LittleEndian.length_bytes 4 _

theorem inner2_length (shortFormat : Bool) (padding : PaddingNonce) (data : Bytes) :
    (inner2 shortFormat padding data).length =
      (if shortFormat then 2 else 4) + data.length +
        padLength2 ((if shortFormat then 2 else 4) + data.length) := by
  unfold inner2
  dsimp only
  rw [List.length_append, List.length_append, List.length_take, padding.bytes_length,
    lengthField_length]
  generalize (if shortFormat then 2 else 4) + data.length = length
  unfold padLength2
  dsimp only
  split
  · omega
  · omega

theorem inner1_length (padding : PaddingNonce) (data : Bytes) :
    (inner1 padding data).length = 4 + data.length + padLength1 (4 + data.length) := by
  unfold inner1
  dsimp only
  rw [List.length_append, List.length_append, List.length_take, padding.bytes_length,
    lengthField_length]
  change 4 + data.length + min (padLength1 (4 + data.length)) 32 = _
  unfold padLength1
  split
  · omega
  · omega

theorem padded2 (length : Nat) : (length + padLength2 length) % 16 = 0 := by
  unfold padLength2
  dsimp only
  split
  · omega
  · omega

theorem padded1 (length : Nat) : (length + padLength1 length) % 16 = 0 := by
  unfold padLength1
  split
  · omega
  · omega

theorem padLength2_range (length : Nat) : 16 ≤ padLength2 length ∧ padLength2 length ≤ 31 := by
  unfold padLength2
  dsimp only
  split
  · omega
  · omega

theorem inner2_range (shortFormat : Bool) (padding : PaddingNonce) (data : Bytes) :
    (inner2 shortFormat padding data).length % 16 = 0 ∧
      data.length + 18 ≤ (inner2 shortFormat padding data).length ∧
      (inner2 shortFormat padding data).length ≤ data.length + 35 := by
  have range := padLength2_range ((if shortFormat then 2 else 4) + data.length)
  rw [inner2_length]
  refine ⟨padded2 _, ?_⟩
  cases shortFormat with
  | true =>
      rw [if_pos rfl] at range ⊢
      omega
  | false =>
      rw [if_neg Bool.false_ne_true] at range ⊢
      omega

theorem inner2_text (shortFormat : Bool) (padding : PaddingNonce) (data : Bytes) :
    ((inner2 shortFormat padding data).drop (lengthField shortFormat 0).length).take
      data.length = data := by
  unfold inner2
  dsimp only
  have same : (lengthField shortFormat 0).length = (lengthField shortFormat data.length).length :=
    (lengthField_length shortFormat 0).trans (lengthField_length shortFormat data.length).symm
  rw [same, List.append_assoc, List.drop_left, List.take_left]

theorem readInnerLen_inner2 (small : data.length ≤ 1468) :
    readInnerLen shortFormat (inner2 shortFormat padding data) = data.length := by
  have field : ∀ count (number : Bytes) (rest : Bytes), number.length = count →
      (number ++ rest).take count = number := by
    intro count number rest length
    rw [← length, List.take_left]
  unfold readInnerLen inner2 lengthField
  cases shortFormat with
  | true =>
      rw [if_pos rfl, if_pos rfl, List.append_assoc,
        field 2 _ _ (LittleEndian.length_bytes 2 _), LittleEndian.value_bytes (by decide)]
      have low : (BitVec.ofNat 16 data.length).toNat = data.length :=
        Nat.mod_eq_of_lt (by omega)
      rw [BitVec.signExtend_eq_setWidth_of_msb_false]
      · rw [BitVec.toNat_setWidth, low]
        exact Nat.mod_eq_of_lt (by omega)
      · rw [BitVec.msb_eq_false_iff_two_mul_lt, low]
        omega
  | false =>
      rw [if_neg Bool.false_ne_true, if_neg Bool.false_ne_true, List.append_assoc,
        field 4 _ _ (LittleEndian.length_bytes 4 _), LittleEndian.value_bytes (by decide)]
      exact Nat.mod_eq_of_lt (by omega)

theorem check2_inner2 (matched : sender.Matches receiver) (small : data.length ≤ 1468) :
    receiver.check2 shortFormat
      (sender.messageKey sender.sendingX
        ((inner2 shortFormat padding data).drop (sizeSize shortFormat)))
      (inner2 shortFormat padding data) = .ok ⟨data, data.length, true⟩ := by
  obtain ⟨_, enough, _⟩ := inner2_range shortFormat padding data
  unfold Cipher.check2
  rw [matched.messageKey, matched.turned, if_neg (not_not_intro rfl), lengthField_length, if_neg]
  · dsimp only
    rw [readInnerLen_inner2 small, if_neg, if_neg]
    · rw [← lengthField_length shortFormat 0, inner2_text]
    · split
      · omega
      · omega
    · unfold sizeSize
      split
      · omega
      · omega
  · split
    · omega
    · omega

theorem decrypt2_encrypted (matched : sender.Matches receiver) (lawful : sender.crypto.Lawful)
    (small : data.length ≤ 1468) (shortFormat : Bool) (padding : PaddingNonce) {msgKey : Bytes}
    (hashed : msgKey = sender.messageKey sender.sendingX
      ((inner2 shortFormat padding data).drop (sizeSize shortFormat))) :
    receiver.decrypt2 shortFormat (msgKey ++ sender.crypto.aesIgeEncrypt
      (inner2 shortFormat padding data) (sender.kdf2 msgKey sender.sendingX).1
      (sender.kdf2 msgKey sender.sendingX).2) = .ok ⟨data, data.length, true⟩ := by
  obtain ⟨whole, _, most⟩ := inner2_range shortFormat padding data
  have bound : (inner2 shortFormat padding data).length ≤ 1500 := by omega
  have width : msgKey.length = 16 := by
    rw [hashed]
    exact messageKey_length lawful
  obtain ⟨keyWidth, ivWidth⟩ := kdf2_length lawful msgKey sender.sendingX
  have length := lawful.encrypt_length (inner2 shortFormat padding data)
    (sender.kdf2 msgKey sender.sendingX).1 (sender.kdf2 msgKey sender.sendingX).2 whole
  unfold Cipher.decrypt2
  rw [if_neg]
  · dsimp only
    rw [List.take_left' width, List.drop_left' width, matched.kdf2, matched.turned,
      matched.crypto, length, if_neg (Nat.not_lt.mpr bound), if_neg (not_not_intro whole),
      lawful.decrypt_encrypt _ _ _ whole keyWidth ivWidth, hashed]
    exact check2_inner2 matched small
  · rw [List.length_append, width]
    omega

theorem open2_seal2 (matched : sender.Matches receiver) (lawful : sender.crypto.Lawful)
    (small : data.length ≤ 1468) :
    receiver.open2 shortFormat (sender.seal2 shortFormat padding data) =
      .ok ⟨data, data.length, true⟩ := by
  have width := keyFingerprint_length lawful
  cases shortFormat with
  | true => exact decrypt2_encrypted matched lawful small true padding rfl
  | false =>
      have written := decrypt2_encrypted matched lawful small false padding rfl
      unfold Cipher.seal2
      dsimp only
      rw [if_neg Bool.false_ne_true, List.append_assoc]
      generalize sender.messageKey sender.sendingX _ ++ _ = rest at written ⊢
      unfold Cipher.open2
      rw [if_neg Bool.false_ne_true, if_neg, List.take_left' width, List.drop_left' width,
        matched.keyFingerprint, if_neg (not_not_intro rfl)]
      · exact written
      · rw [List.length_append, width]
        omega

theorem inner1_whole (padding : PaddingNonce) (data : Bytes) :
    (inner1 padding data).length % 16 = 0 := by
  rw [inner1_length]
  exact padded1 _

theorem inner1_drop : (inner1 padding data).drop 4 =
    data ++ padding.bytes.take (padLength1 (4 + data.length)) := by
  unfold inner1
  dsimp only
  have length : (lengthField false data.length).length = 4 := lengthField_length false _
  rw [List.length_append, length, List.append_assoc]
  rw [← length, List.drop_left, length]

theorem readLen_inner1 (small : data.length ≤ 1468) :
    (LittleEndian.value 32 ((inner1 padding data).take 4)).toNat = data.length := by
  unfold inner1 lengthField
  dsimp only
  have width : (LittleEndian.bytes 4 (BitVec.ofNat 32 data.length)).length = 4 :=
    LittleEndian.length_bytes 4 _
  rw [if_neg Bool.false_ne_true, List.append_assoc]
  nth_rewrite 1 [← width]
  rw [List.take_left, LittleEndian.value_bytes (by decide)]
  exact Nat.mod_eq_of_lt (by omega)

theorem open1_seal1 (matched : sender.Matches receiver) (lawful : sender.crypto.Lawful)
    (small : data.length ≤ 1468) :
    receiver.open1 (sender.seal1 padding data) = some (inner1 padding data) := by
  have whole := inner1_whole padding data
  have first := keyFingerprint_length lawful
  have second := messageHash_length lawful ((inner1 padding data).take (data.length + 4))
  unfold Cipher.open1 Cipher.seal1
  dsimp only
  generalize hashed : sender.messageHash ((inner1 padding data).take (data.length + 4)) =
    msgHash at second ⊢
  obtain ⟨keyWidth, ivWidth⟩ := kdf_length lawful msgHash sender.sendingX
  have both : (sender.keyFingerprint ++ msgHash).length = 24 := by
    rw [List.length_append, first, second]
  have found : ((sender.keyFingerprint ++ msgHash ++ sender.crypto.aesIgeEncrypt
      (inner1 padding data) (sender.kdf msgHash sender.sendingX).1
      (sender.kdf msgHash sender.sendingX).2).drop 8).take 16 = msgHash := by
    rw [List.append_assoc, ← first, List.drop_left, ← second, List.take_left]
  rw [found, ← both, List.drop_left, matched.kdf, matched.turned, matched.crypto,
    lawful.decrypt_encrypt _ _ _ whole keyWidth ivWidth, readLen_inner1 small]
  have enough : min data.length ((inner1 padding data).length - 4) = data.length := by
    rw [inner1_length]
    omega
  rw [enough, matched.messageHash, hashed, if_pos rfl]

end Ends

/-! ### The whole way -/

section Packets

variable {sender receiver : Cipher} {padding : PaddingNonce} {data : Bytes}
  {here there : Peering} {target source : PacketEndpoint} {useMTProto2 : Bool}

def awaitedTag (peering : Peering) (endpoint : PacketEndpoint) : Bytes :=
  if expectsTag peering endpoint then expectedTag peering endpoint else []

/-- With the first version the padding is not cut off. -/
def leftPadding (useMTProto2 : Bool) (padding : PaddingNonce) (length : Nat) : Bytes :=
  if useMTProto2 then [] else padding.bytes.take (padLength1 (4 + length))

theorem expectedTag_length (peering : Peering) (endpoint : PacketEndpoint) :
    (expectedTag peering endpoint).length = 16 := by
  unfold expectedTag
  split
  · exact endpoint.peerTag_length
  · exact peering.callID_length

theorem seal_length (lawful : sender.crypto.Lawful) (shortFormat useMTProto2 : Bool)
    (padding : PaddingNonce) (some : data ≠ []) :
    40 ≤ (sender.seal shortFormat useMTProto2 padding data).length := by
  have positive := List.length_pos_of_ne_nil some
  have first := keyFingerprint_length lawful
  unfold Cipher.seal
  cases useMTProto2 with
  | true =>
      obtain ⟨whole, enough, _⟩ := inner2_range shortFormat padding data
      rw [if_pos rfl]
      unfold Cipher.seal2
      dsimp only
      rw [List.length_append, List.length_append, messageKey_length lawful,
        lawful.encrypt_length _ _ _ whole]
      omega
  | false =>
      have width := inner1_length padding data
      have whole := inner1_whole padding data
      rw [if_neg Bool.false_ne_true]
      unfold Cipher.seal1
      dsimp only
      rw [List.length_append, List.length_append, first, messageHash_length lawful,
        lawful.encrypt_length _ _ _ whole]
      omega

def openedText (useMTProto2 : Bool) (padding : PaddingNonce) (data : Bytes) : Opened :=
  { text := data ++ leftPadding useMTProto2 padding data.length
    innerLen := if useMTProto2 then data.length else 0
    useMTProto2 := useMTProto2 }

theorem seal_opens (matched : sender.Matches receiver) (lawful : sender.crypto.Lawful)
    (small : data.length ≤ 1468) (shortFormat useMTProto2 : Bool) (padding : PaddingNonce)
    (fallback : Except Refused Opened) :
    (if useMTProto2 then
      receiver.open2 shortFormat (sender.seal shortFormat useMTProto2 padding data)
    else
      match receiver.open1 (sender.seal shortFormat useMTProto2 padding data) with
      | some decrypted => .ok ⟨decrypted.drop 4, 0, false⟩
      | none => fallback) = .ok (openedText useMTProto2 padding data) := by
  unfold Cipher.seal openedText leftPadding
  cases useMTProto2 with
  | true =>
      rw [if_pos rfl, if_pos rfl, if_pos rfl, if_pos rfl, List.append_nil]
      exact open2_seal2 matched lawful small
  | false =>
      rw [if_neg Bool.false_ne_true, if_neg Bool.false_ne_true, if_neg Bool.false_ne_true,
        if_neg Bool.false_ne_true, open1_seal1 matched lawful small]
      dsimp only
      rw [inner1_drop]

theorem sent_packet_is_opened (matched : sender.Matches receiver)
    (lawful : sender.crypto.Lawful) (format : here.shortFormat = there.shortFormat)
    (tag : writtenTag here target = awaitedTag there source) (some : data ≠ [])
    (small : data.length ≤ 1468)
    (clear : source.isRelay = true →
      (sender.seal here.shortFormat useMTProto2 padding data).take 12 ≠ List.replicate 12 255) :
    receiver.openPacket there useMTProto2 source
      (sender.sendPacket here useMTProto2 target padding data) =
        .ok (openedText useMTProto2 padding data) := by
  have enough := seal_length lawful here.shortFormat useMTProto2 padding some
  have opened := seal_opens matched lawful small here.shortFormat useMTProto2 padding
  have written : sender.sendPacket here useMTProto2 target padding data =
      awaitedTag there source ++ sender.seal here.shortFormat useMTProto2 padding data := by
    unfold Cipher.sendPacket
    rw [tag, if_pos (List.length_pos_of_ne_nil some)]
  rw [written]
  rw [format] at enough opened clear ⊢
  generalize sender.seal there.shortFormat useMTProto2 padding data = rest at clear enough opened ⊢
  have width := expectedTag_length there source
  have quiet : ¬(rest.length ≥ 16 ∧ source.isRelay = true ∧
      rest.take 12 = List.replicate 12 255) := fun response =>
    clear response.2.1 response.2.2
  unfold Cipher.openPacket awaitedTag
  dsimp only
  cases expectsTag there source with
  | true =>
      rw [if_pos rfl, List.take_left' width, List.drop_left' width, if_neg, if_pos rfl,
        if_neg quiet, if_neg (Nat.not_lt.mpr enough)]
      · exact opened _
      · exact fun wrong => wrong.2 rfl
  | false =>
      rw [if_neg Bool.false_ne_true, List.nil_append, if_neg, if_neg Bool.false_ne_true,
        if_neg quiet, if_neg (Nat.not_lt.mpr enough)]
      · exact opened _
      · exact fun wrong => Bool.false_ne_true wrong.1

theorem writePacket_nonempty (peering : Peering) (random : HeaderNonce) {packet : Packet}
    (fits : packet.Fits) : peering.writePacket random packet ≠ [] := by
  have long : ∀ (i : BitVec 32) (rest : Bytes), int32Text i ++ rest ≠ [] := by
    intro i rest empty
    have length := congrArg List.length empty
    rw [List.length_append] at length
    unfold int32Text at length
    rw [LittleEndian.length_bytes] at length
    change 4 + rest.length = 0 at length
    omega
  rw [writePacket_eq peering random fits]
  unfold Peering.packetText Peering.headerText
  intro empty
  have header := (List.append_eq_nil_iff.mp (List.append_eq_nil_iff.mp empty).1).1
  split at header
  · cases header
  · split at header
    · exact long _ _ header
    · exact long _ _ header

/-- Whatever one end of a call writes and encrypts, the other decrypts and
reads, in every format of the header and with both versions of the encryption;
with the first one the padding stays behind the data. -/
theorem sealed_packet_is_read (matched : sender.Matches receiver)
    (lawful : sender.crypto.Lawful) (agrees : here.Agrees there)
    (tag : writtenTag here target = awaitedTag there source) (random : HeaderNonce)
    {packet : Packet} (fits : packet.Fits)
    (small : (here.writePacket random packet).length ≤ 1468)
    (clear : source.isRelay = true →
      (sender.seal here.shortFormat useMTProto2 padding
        (here.writePacket random packet)).take 12 ≠ List.replicate 12 255) :
    ∃ opened, receiver.openPacket there useMTProto2 source
        (sender.sendPacket here useMTProto2 target padding
          (here.writePacket random packet)) = .ok opened ∧
      opened.useMTProto2 = useMTProto2 ∧
      (there.readPacket (BitVec.ofNat 64 opened.innerLen)).run' (.ofBytes opened.text) =
        .ok { here.carried packet with
          data := packet.data ++
            leftPadding useMTProto2 padding (here.writePacket random packet).length } := by
  have some := writePacket_nonempty here random fits
  refine ⟨_, sent_packet_is_opened matched lawful agrees.form tag some small clear, rfl, ?_⟩
  exact packet_read_before agrees random fits _ _

end Packets

def sampleSecret : Bytes := (List.range 256).map UInt8.ofNat

def sampleNonce : PaddingNonce :=
  { bytes := List.replicate 32 7
    bytes_length := rfl }

def samplePacketText : Bytes := blockPeering.writePacket blockNonce ⟨4, 1, 0, 0, [], [5]⟩

def sampleMessageKey : Bytes :=
  [79, 120, 124, 190, 215, 215, 16, 10, 47, 173, 119, 228, 5, 58, 226, 76]

def sampleMessageHash : Bytes :=
  [231, 135, 71, 45, 222, 76, 6, 95, 79, 120, 124, 190, 215, 215, 16, 10, 47, 173, 119, 228, 5,
   58, 226, 76, 74, 77, 122, 25, 52, 24, 202, 80]

def sampleHashA : Bytes :=
  [74, 248, 176, 193, 64, 27, 26, 238, 166, 222, 157, 185, 244, 73, 169, 18, 107, 216, 125, 109,
   34, 182, 180, 73, 151, 227, 235, 110, 252, 234, 79, 148]

def sampleHashB : Bytes :=
  [91, 9, 115, 245, 83, 124, 9, 211, 138, 45, 116, 87, 85, 46, 90, 235, 53, 223, 154, 164, 93,
   103, 78, 43, 149, 209, 113, 121, 95, 16, 186, 219]

def sampleCipherText : Bytes :=
  [135, 9, 7, 60, 36, 159, 10, 70, 9, 35, 254, 222, 144, 41, 171, 193, 67, 31, 78, 241, 202, 225,
   187, 211, 149, 41, 115, 91, 215, 220, 16, 206, 249, 168, 195, 69, 220, 147, 209, 127, 225, 184,
   252, 131, 109, 120, 124, 212, 243, 214, 184, 211, 235, 17, 80, 215, 111, 97, 216, 39, 36, 105,
   78, 39]

def sampleAesKey : Bytes :=
  sampleHashA.take 8 ++ (sampleHashB.drop 8).take 16 ++ (sampleHashA.drop 24).take 8

/-- AES-256 for one text; it is a permutation because the result is sent back. -/
def sampleAes (block key : Bytes) : Bytes :=
  if key ≠ sampleAesKey then block
  else if block = inner2 false sampleNonce samplePacketText then sampleCipherText
  else if block = sampleCipherText then inner2 false sampleNonce samplePacketText
  else block

def sampleCrypto : Crypto :=
  { sha1 := fun _ =>
      [73, 22, 214, 189, 183, 247, 142, 104, 3, 105, 140, 171, 50, 209, 88, 110, 164, 87, 223,
       200]
    sha256 := fun data =>
      if data = (sampleSecret.drop 88).take 32 ++
          (inner2 false sampleNonce samplePacketText).drop 4 then sampleMessageHash
      else if data = sampleMessageKey ++ sampleSecret.take 36 then sampleHashA
      else if data = (sampleSecret.drop 40).take 36 ++ sampleMessageKey then sampleHashB
      else List.replicate 32 0
    aesIgeEncrypt := fun text key _ => sampleAes text key
    aesIgeDecrypt := fun text key _ => sampleAes text key }

theorem sampleAes_length (block key : Bytes) : (sampleAes block key).length = block.length := by
  unfold sampleAes
  split
  · rfl
  · split
    · rename_i same
      rw [same]
      decide +kernel
    · split
      · rename_i same
        rw [same]
        decide +kernel
      · rfl

theorem sampleAes_back (block key : Bytes) : sampleAes (sampleAes block key) key = block := by
  unfold sampleAes
  by_cases other : key ≠ sampleAesKey
  · rw [if_pos other, if_pos other]
  · rw [if_neg other, if_neg other]
    by_cases first : block = inner2 false sampleNonce samplePacketText
    · rw [if_pos first, if_neg (by decide +kernel), if_pos rfl, first]
    · rw [if_neg first]
      by_cases second : block = sampleCipherText
      · rw [if_pos second, if_pos rfl, second]
      · rw [if_neg second, if_neg first, if_neg second]

theorem sampleCrypto_lawful : sampleCrypto.Lawful where
  sha1_length := fun _ => rfl
  sha256_length := by
    intro data
    change (if _ then _ else _ : Bytes).length = 32
    split
    · rfl
    · split
      · rfl
      · split
        · rfl
        · rfl
  encrypt_length := fun text key _ _ => sampleAes_length text key
  decrypt_encrypt := fun text key _ _ _ _ => sampleAes_back text key

def sampleCaller : Cipher :=
  { crypto := sampleCrypto
    encryptionKey := sampleSecret
    encryptionKey_length := by
      unfold sampleSecret
      rw [List.length_map, List.length_range]
    isOutgoing := true }

def sampleCallee : Cipher := { sampleCaller with isOutgoing := false }

theorem length_emptyTag : (List.replicate 16 0 : Bytes).length = 16 :=
  List.length_replicate

def samplePeer : PacketEndpoint :=
  { isRelay := false
    peerTag := List.replicate 16 0
    peerTag_length := length_emptyTag }

theorem sample_packet_is_sealed :
    sampleCaller.sendPacket blockPeering true samplePeer sampleNonce samplePacketText =
        blockPeering.callID ++ sampleCaller.keyFingerprint ++ sampleMessageKey ++
          sampleCipherText ∧
      ∃ opened, sampleCallee.openPacket blockPeering true samplePeer
          (sampleCaller.sendPacket blockPeering true samplePeer sampleNonce samplePacketText) =
            .ok opened ∧
        opened.useMTProto2 = true ∧
        (blockPeering.readPacket (BitVec.ofNat 64 opened.innerLen)).run' (.ofBytes opened.text) =
          .ok ⟨4, 1, 0, 0, [], [5]⟩ := by
  refine ⟨by decide +kernel, ?_⟩
  have matched : sampleCaller.Matches sampleCallee := ⟨rfl, rfl, rfl⟩
  have agrees : blockPeering.Agrees blockPeering := ⟨rfl, rfl, fun _ => Iff.rfl⟩
  have fits : Packet.Fits ⟨4, 1, 0, 0, [], [5]⟩ := ⟨by decide, by decide, by decide⟩
  have small : (blockPeering.writePacket blockNonce ⟨4, 1, 0, 0, [], [5]⟩).length ≤ 1468 := by
    decide +kernel
  have tag : writtenTag blockPeering samplePeer = awaitedTag blockPeering samplePeer := rfl
  exact sealed_packet_is_read matched sampleCrypto_lawful agrees tag blockNonce fits small
    (fun relay => Bool.noConfusion relay)

end Tg2Sip.Voip
