import CardReader.Proofs.Crypto.Cbc
import CardReader.Proofs.Run
import CardReader.Stid.Handshake
import Mathlib.Tactic.Common

namespace CardReader

namespace Block

theorem eq_of_toList {a b : Block} (h : a.toList = b.toList) : a = b := congrArg ofPrefix h

theorem length_pair (a b : Block) : (a.toList ++ b.toList).length = 32 := rfl

/-- Two blocks of bytes are their first block and their second one. -/
theorem toList_pair (data : Bytes) (h : data.length = 2 * size) :
    data = (ofPrefix data).toList ++ (ofPrefix (data.drop size)).toList := by
  have hfirst := toList_ofPrefix_whole data (by omega)
  have hsecond := toList_ofPrefix_whole (data.drop size) (by rw [List.length_drop]; omega)
  have hall : (data.drop size).take size = data.drop size :=
    List.take_of_length_le (by rw [List.length_drop]; omega)
  rw [hfirst, hsecond, hall, List.take_append_drop]

end Block

namespace Cbc

theorem encrypt_toList (key initial : Block) (plain : Bytes) :
    encrypt key.toList initial.toList plain = .ok (encipher key initial plain) := by
  rw [encrypt, Block.ofList?_toList, Block.ofList?_toList]

end Cbc

namespace Stid

open Run

namespace Peer

/-- Key under which a reader expects the nonces of the signed-mode handshake. -/
def nonceKey (userKey challenge : Bytes) : Bytes :=
  (Sha1.mac userKey (userKey ++ challenge)).take 16

/-- Key of signatures that a reader picks from the nonces of host and reader. -/
def signingKey (host reader : Bytes) : Bytes :=
  host.take 3 ++ reader.take 2 ++ host.drop 14 ++ reader.drop 13

/-- Key of the cipher that a reader picks from the nonces of reader and host. -/
def cipheringKey (reader host : Bytes) : Bytes :=
  reader.take 4 ++ host.take 4 ++ reader.drop 12 ++ host.drop 12

theorem handshakeKey_toList (userKey challenge : Bytes) :
    (handshakeKey userKey challenge).toList = nonceKey userKey challenge := by
  rw [handshakeKey, Block.toList_ofPrefix_whole _ (by rw [Sha1.length_mac]; decide)]
  rfl

theorem signatureKey_eq (host reader : Block) :
    signatureKey host reader = signingKey host.toList reader.toList := rfl

theorem cipherKey_toList (reader host : Block) :
    (cipherKey reader host).toList = cipheringKey reader.toList host.toList := rfl

end Peer

namespace HmacHandshake

def masterKey (userKey : Bytes) : Bytes := if userKey = [] then factoryHmacKey else userKey

theorem start_eq (userKey : Bytes) (nonce : Block) :
    start userKey nonce = ⟨masterKey userKey, nonce, none⟩ := by
  cases userKey with
  | nil => rfl
  | cons b rest => rfl

theorem respond_block (h : HmacHandshake) (challenge : Block) :
    h.respond challenge.toList =
      (Cbc.encipher (handshakeKey h.userKey challenge.toList) .zero
        (challenge.toList ++ h.nonce.toList),
        { h with key := some (handshakeKey h.userKey challenge.toList) }) := rfl

theorem finish_partial {h : HmacHandshake} {key : Block} (hk : h.key = some key) (reply : Bytes)
    (hp : reply.length % 16 ≠ 0) :
    h.finish reply = .error (.cipher (.partialBlock reply.length)) := by
  simp only [finish, hk, Cbc.decrypt_partial _ _ _ hp, ofCipher]
  rfl

/-- What a challenged host makes of a reply of whole blocks, by its length and its first block. -/
theorem finish_whole {h : HmacHandshake} {key : Block} (hk : h.key = some key) (reply : Bytes)
    (hw : reply.length % 16 = 0) :
    h.finish reply =
      if reply.length ≠ 32 then .error (.badResponseLength 32 reply.length)
      else if Block.ofPrefix (Cbc.decipher key .zero reply) ≠ h.nonce then .error .nonceMismatch
      else .ok (signatureKey h.nonce
        (Block.ofPrefix ((Cbc.decipher key .zero reply).drop Block.size))) := by
  have hl : (Cbc.decipher key .zero reply).length = reply.length :=
    Cbc.length_decipher key .zero reply hw
  have hsize : 2 * Block.size = 32 := rfl
  simp only [finish, hk, Cbc.decrypt_whole key .zero reply hw, ofCipher, ok_bind, hl, hsize]
  by_cases hlength : reply.length ≠ 32
  · rw [if_pos hlength, if_pos hlength]
    rfl
  · rw [if_neg hlength, if_neg hlength]
    by_cases hfirst : Block.ofPrefix (Cbc.decipher key .zero reply) ≠ h.nonce
    · rw [if_pos hfirst, if_pos hfirst]
      rfl
    · rw [if_neg hfirst, if_neg hfirst]
      rfl

def challenged (userKey : Bytes) (challenge nonce : Block) : HmacHandshake :=
  ((start userKey nonce).respond challenge.toList).2

/-- What a host and a reader with one user key come to: the reader learns both nonces, and the host
takes exactly the replies that open to its own nonce and one of the reader's. -/
structure Agreement (userKey : Bytes) (challenge nonce : Block) : Prop where
  request_opens :
    Cbc.decrypt (Peer.nonceKey (masterKey userKey) challenge.toList) Block.zero.toList
      ((start userKey nonce).respond challenge.toList).1 = .ok (challenge.toList ++ nonce.toList)
  finish_ok_iff : ∀ reply key, (challenged userKey challenge nonce).finish reply = .ok key ↔
    reply.length = 32 ∧ ∃ own : Block,
      Cbc.decrypt (Peer.nonceKey (masterKey userKey) challenge.toList) Block.zero.toList reply =
        .ok (nonce.toList ++ own.toList) ∧
      key = Peer.signingKey nonce.toList own.toList
  honest : ∀ own : Block, ∃ reply,
    Cbc.encrypt (Peer.nonceKey (masterKey userKey) challenge.toList) Block.zero.toList
      (nonce.toList ++ own.toList) = .ok reply ∧
    (challenged userKey challenge nonce).finish reply =
      .ok (Peer.signingKey nonce.toList own.toList)
  mismatch : ∀ reply, reply.length = 32 →
    (∀ own : Block,
      Cbc.decrypt (Peer.nonceKey (masterKey userKey) challenge.toList) Block.zero.toList reply ≠
        .ok (nonce.toList ++ own.toList)) →
    (challenged userKey challenge nonce).finish reply = .error .nonceMismatch
  wrong_length : ∀ reply, reply.length % 16 = 0 → reply.length ≠ 32 →
    (challenged userKey challenge nonce).finish reply = .error (.badResponseLength 32 reply.length)
  partial_block : ∀ reply, reply.length % 16 ≠ 0 →
    (challenged userKey challenge nonce).finish reply =
      .error (.cipher (.partialBlock reply.length))
  unchallenged : ∀ reply, (start userKey nonce).finish reply = .error (.missing .handshakeKey)

section

variable (userKey : Bytes) (challenge nonce : Block)

theorem challenged_eq : challenged userKey challenge nonce =
    ⟨masterKey userKey, nonce, some (handshakeKey (masterKey userKey) challenge.toList)⟩ := by
  rw [challenged, start_eq]
  rfl

theorem decrypt_request :
    Cbc.decrypt (Peer.nonceKey (masterKey userKey) challenge.toList) Block.zero.toList
        ((start userKey nonce).respond challenge.toList).1 =
      .ok (challenge.toList ++ nonce.toList) := by
  have hw : (challenge.toList ++ nonce.toList).length % Block.size = 0 := by
    rw [Block.length_pair]
    rfl
  rw [start_eq, respond_block, ← Peer.handshakeKey_toList, Cbc.decrypt_encipher,
    Block.padded_whole _ hw]

/-- A reply of two blocks opens to the nonce of the host and another block exactly when its first
block is that nonce. -/
theorem opens_iff {reply : Bytes} (hl : reply.length = 32) (own : Block) :
    Cbc.decrypt (Peer.nonceKey (masterKey userKey) challenge.toList) Block.zero.toList reply =
        .ok (nonce.toList ++ own.toList) ↔
      Block.ofPrefix
          (Cbc.decipher (handshakeKey (masterKey userKey) challenge.toList) .zero reply) = nonce ∧
        Block.ofPrefix ((Cbc.decipher (handshakeKey (masterKey userKey) challenge.toList) .zero
          reply).drop Block.size) = own := by
  have hw : reply.length % Block.size = 0 := by rw [hl]; rfl
  have hlength := Cbc.length_decipher (handshakeKey (masterKey userKey) challenge.toList) .zero
    reply hw
  rw [← Peer.handshakeKey_toList, Cbc.decrypt_whole _ _ _ hw, Except.ok.injEq]
  constructor
  · intro h
    rw [h]
    exact ⟨rfl, rfl⟩
  · rintro ⟨hfirst, hsecond⟩
    have hpair := Block.toList_pair _ (hlength.trans hl)
    rw [hfirst, hsecond] at hpair
    exact hpair

theorem finish_ok {reply key : Bytes} :
    (challenged userKey challenge nonce).finish reply = .ok key ↔
      reply.length = 32 ∧ ∃ own : Block,
        Cbc.decrypt (Peer.nonceKey (masterKey userKey) challenge.toList) Block.zero.toList reply =
          .ok (nonce.toList ++ own.toList) ∧
        key = Peer.signingKey nonce.toList own.toList := by
  rw [challenged_eq]
  by_cases hw : reply.length % 16 = 0
  · rw [finish_whole rfl reply hw]
    by_cases hl : reply.length = 32
    · rw [if_neg (not_not.mpr hl)]
      constructor
      · intro h
        by_cases hfirst : Block.ofPrefix
            (Cbc.decipher (handshakeKey (masterKey userKey) challenge.toList) .zero reply) = nonce
        · rw [if_neg (not_not.mpr hfirst)] at h
          exact ⟨hl, _, (opens_iff userKey challenge nonce hl _).mpr ⟨hfirst, rfl⟩,
            (Except.ok.inj h).symm⟩
        · rw [if_pos hfirst] at h
          contradiction
      · rintro ⟨-, own, hopen, rfl⟩
        obtain ⟨hfirst, rfl⟩ := (opens_iff userKey challenge nonce hl own).mp hopen
        rw [if_neg (not_not.mpr hfirst), Peer.signatureKey_eq]
    · rw [if_pos hl]
      exact iff_of_false (fun h => nomatch h) fun h => hl h.1
  · rw [finish_partial rfl reply hw]
    refine iff_of_false (fun h => nomatch h) fun h => hw ?_
    rw [h.1]

theorem finish_honest (own : Block) : ∃ reply,
    Cbc.encrypt (Peer.nonceKey (masterKey userKey) challenge.toList) Block.zero.toList
      (nonce.toList ++ own.toList) = .ok reply ∧
    (challenged userKey challenge nonce).finish reply =
      .ok (Peer.signingKey nonce.toList own.toList) := by
  have hw : (nonce.toList ++ own.toList).length % Block.size = 0 := by
    rw [Block.length_pair]
    rfl
  rw [← Peer.handshakeKey_toList, Cbc.encrypt_toList]
  refine ⟨_, rfl, (finish_ok userKey challenge nonce).mpr ⟨?_, own, ?_, rfl⟩⟩
  · rw [Cbc.length_encipher, Block.length_pair]
  · rw [← Peer.handshakeKey_toList, Cbc.decrypt_encipher, Block.padded_whole _ hw]

theorem finish_mismatch {reply : Bytes} (hl : reply.length = 32)
    (h : ∀ own : Block,
      Cbc.decrypt (Peer.nonceKey (masterKey userKey) challenge.toList) Block.zero.toList reply ≠
        .ok (nonce.toList ++ own.toList)) :
    (challenged userKey challenge nonce).finish reply = .error .nonceMismatch := by
  have hw : reply.length % 16 = 0 := by rw [hl]
  rw [challenged_eq, finish_whole rfl reply hw, if_neg (not_not.mpr hl)]
  apply if_pos
  intro hfirst
  exact h _ ((opens_iff userKey challenge nonce hl _).mpr ⟨hfirst, rfl⟩)

theorem agreement : Agreement userKey challenge nonce where
  request_opens := decrypt_request userKey challenge nonce
  finish_ok_iff _ _ := finish_ok userKey challenge nonce
  honest := finish_honest userKey challenge nonce
  mismatch _ hl := finish_mismatch userKey challenge nonce hl
  wrong_length := by
    intro reply hw hl
    rw [challenged_eq, finish_whole rfl reply hw, if_pos hl]
  partial_block := by
    intro reply hp
    rw [challenged_eq, finish_partial rfl reply hp]
  unchallenged := fun _ => rfl

end

end HmacHandshake

namespace AesHandshake

def masterKey (userKey : Bytes) : Bytes := if userKey = [] then factoryAesKey else userKey

def challenged (userKey : Bytes) (challenge nonce : Block) : AesHandshake :=
  ⟨masterKey userKey, nonce, some challenge⟩

/-- What a host and a reader with one user key come to: the host answers the challenge so that the
reader learns both nonces, and takes exactly its own nonce, enciphered, as the reply. -/
structure Agreement (userKey : Bytes) (challenge nonce : Block) : Prop where
  responds : ∃ sealed request,
    Cbc.encrypt (masterKey userKey) Block.zero.toList challenge.toList = .ok sealed ∧
    (start userKey nonce).respond sealed = .ok (request, challenged userKey challenge nonce) ∧
    Cbc.decrypt (masterKey userKey) Block.zero.toList request =
      .ok (challenge.toList ++ nonce.toList)
  finish_ok_iff : ∀ reply key, (challenged userKey challenge nonce).finish reply = .ok key ↔
    Cbc.encrypt (masterKey userKey) Block.zero.toList nonce.toList = .ok reply ∧
      key.toList = Peer.cipheringKey challenge.toList nonce.toList
  mismatch : ∀ reply, reply.length % 16 = 0 →
    Cbc.encrypt (masterKey userKey) Block.zero.toList nonce.toList ≠ .ok reply →
    (challenged userKey challenge nonce).finish reply = .error .nonceMismatch
  unchallenged : ∀ reply, (start userKey nonce).finish reply = .error (.missing .handshakeChallenge)

theorem start_eq (userKey : Bytes) (nonce : Block) :
    start userKey nonce = ⟨masterKey userKey, nonce, none⟩ := by
  cases userKey with
  | nil => rfl
  | cons b rest => rfl

/-- The user key in force has the size of a block. -/
theorem masterKey_block {userKey : Bytes} (h : userKey = [] ∨ userKey.length = 16) :
    ∃ master : Block, masterKey userKey = master.toList := by
  have hlength : (masterKey userKey).length = Block.size := by
    by_cases hempty : userKey = []
    · rw [masterKey, if_pos hempty]
      rfl
    · rw [masterKey, if_neg hempty]
      exact h.resolve_left hempty
  obtain ⟨master, -, hmaster⟩ := Block.ofList?_eq_some _ hlength
  exact ⟨master, hmaster.symm⟩

section

variable {userKey : Bytes} {master : Block} (hk : masterKey userKey = master.toList)
  (challenge nonce : Block)
include hk

/-- The host's request holds both nonces under the user key. -/
theorem respond_sealed : ∃ request,
    (start userKey nonce).respond (Cbc.encipher master .zero challenge.toList) =
      .ok (request, challenged userKey challenge nonce) ∧
    Cbc.decrypt (masterKey userKey) Block.zero.toList request =
      .ok (challenge.toList ++ nonce.toList) := by
  have hone : Block.padded challenge.toList = challenge.toList := Block.padded_whole _ (by
    rw [Block.length_toList]
    rfl)
  have htwo : Block.padded (challenge.toList ++ nonce.toList) =
      challenge.toList ++ nonce.toList := Block.padded_whole _ (by
    rw [Block.length_pair]
    rfl)
  refine ⟨Cbc.encipher master .zero (challenge.toList ++ nonce.toList), ?_, ?_⟩
  · rw [start_eq, respond, challenged]
    simp only [hk, Cbc.decrypt_encipher, hone, ofCipher, ok_bind, Block.ofList?_toList,
      Cbc.encrypt_toList]
    rfl
  · rw [hk, Cbc.decrypt_encipher, htwo]

theorem finish_whole {reply : Bytes} (hw : reply.length % 16 = 0) :
    (challenged userKey challenge nonce).finish reply =
      if Cbc.decipher master .zero reply ≠ nonce.toList then .error .nonceMismatch
      else .ok (cipherKey challenge nonce) := by
  rw [finish, challenged]
  simp only [hk, Cbc.decrypt_whole master .zero reply hw, ofCipher, ok_bind]
  by_cases hnonce : Cbc.decipher master .zero reply ≠ nonce.toList
  · rw [if_pos hnonce, if_pos hnonce]
    rfl
  · rw [if_neg hnonce, if_neg hnonce]
    rfl

/-- A reply opens to the nonce of the host exactly when it is the nonce enciphered. -/
theorem opens_iff {reply : Bytes} (hw : reply.length % 16 = 0) :
    Cbc.decipher master .zero reply = nonce.toList ↔
      Cbc.encrypt (masterKey userKey) Block.zero.toList nonce.toList = .ok reply := by
  have hone : Block.padded nonce.toList = nonce.toList := Block.padded_whole _ (by
    rw [Block.length_toList]
    rfl)
  rw [hk, Cbc.encrypt_toList, Except.ok.injEq]
  constructor
  · intro h
    rw [← h, Cbc.encipher_decipher master .zero reply hw]
  · rintro rfl
    rw [Cbc.decipher_encipher, hone]

theorem finish_ok {reply : Bytes} {key : Block} :
    (challenged userKey challenge nonce).finish reply = .ok key ↔
      Cbc.encrypt (masterKey userKey) Block.zero.toList nonce.toList = .ok reply ∧
        key.toList = Peer.cipheringKey challenge.toList nonce.toList := by
  by_cases hw : reply.length % 16 = 0
  · rw [finish_whole hk challenge nonce hw, ← opens_iff hk nonce hw, ← Peer.cipherKey_toList]
    by_cases hopen : Cbc.decipher master .zero reply = nonce.toList
    · rw [if_neg (not_not.mpr hopen), Except.ok.injEq]
      constructor
      · rintro rfl
        exact ⟨hopen, rfl⟩
      · rintro ⟨-, hkey⟩
        exact (Block.eq_of_toList hkey).symm
    · rw [if_pos hopen]
      exact iff_of_false (fun h => nomatch h) fun h => hopen h.1
  · have hfail : (challenged userKey challenge nonce).finish reply =
        .error (.cipher (.partialBlock reply.length)) := by
      simp only [finish, challenged, Cbc.decrypt_partial _ _ _ hw, ofCipher]
      rfl
    rw [hfail]
    refine iff_of_false (fun h => nomatch h) fun h => hw ?_
    have hreply := h.1
    rw [hk, Cbc.encrypt_toList, Except.ok.injEq] at hreply
    rw [← hreply, Cbc.length_encipher]
    omega

theorem agreement : Agreement userKey challenge nonce where
  responds := by
    obtain ⟨request, hrespond, hopen⟩ := respond_sealed hk challenge nonce
    refine ⟨_, request, ?_, hrespond, hopen⟩
    rw [hk, Cbc.encrypt_toList]
  finish_ok_iff _ _ := finish_ok hk challenge nonce
  mismatch := by
    intro reply hw h
    rw [finish_whole hk challenge nonce hw]
    apply if_pos
    intro hopen
    exact h ((opens_iff hk nonce hw).mp hopen)
  unchallenged := fun _ => rfl

end

end AesHandshake

/-- Under every user key and for all nonces, both handshakes let both ends learn the nonces, take
the honest reply and no other, and derive one key at both ends. -/
theorem handshakes_agree (hmacKey : Bytes) {aesKey : Bytes} (h : aesKey = [] ∨ aesKey.length = 16)
    (challenge nonce : Block) :
    HmacHandshake.Agreement hmacKey challenge nonce ∧
      AesHandshake.Agreement aesKey challenge nonce := by
  obtain ⟨master, hmaster⟩ := AesHandshake.masterKey_block h
  exact ⟨HmacHandshake.agreement hmacKey challenge nonce,
    AesHandshake.agreement hmaster challenge nonce⟩

theorem handshakes_agree_factory :
    (factoryAesKey = [] ∨ factoryAesKey.length = 16) ∧
      HmacHandshake.Agreement [] .zero ⟨⟨1, 2, 3, 4⟩, ⟨5, 6, 7, 8⟩, ⟨9, 0, 0, 0⟩, ⟨0, 0, 0, 1⟩⟩ ∧
      AesHandshake.Agreement factoryAesKey .zero
        ⟨⟨1, 2, 3, 4⟩, ⟨5, 6, 7, 8⟩, ⟨9, 0, 0, 0⟩, ⟨0, 0, 0, 1⟩⟩ :=
  ⟨.inr rfl, handshakes_agree [] (.inr rfl) .zero _⟩

end Stid

end CardReader
