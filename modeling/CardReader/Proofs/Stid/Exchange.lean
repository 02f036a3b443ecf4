import CardReader.Proofs.Stid.Command

namespace CardReader

open Run

namespace Stid.Framer

variable {R : Framer → Framer → Prop}

theorem ofSession_keeps (hR : Closed R) {α : Type} (out : Except SessionError α) :
    Keeps R (ofSession out) := by
  cases out with
  | ok a => exact Keeps.pure hR a
  | error e => exact Keeps.throw hR _

theorem fresh_keeps (hR : Closed R) (hn : ∀ f nonces, R f { f with nonces }) : Keeps R fresh := by
  intro f
  exact hR.trans (hn f _) (ofSession_keeps hR _ _)

theorem cipherFrom_keeps (hR : Closed R) (hc : ∀ f chained, R f { f with chained })
    (message : Bytes) (start : Block) : Keeps R (cipherFrom message start) := by
  unfold cipherFrom
  refine Keeps.bind hR (Keeps.get hR) fun f => ?_
  refine Keeps.bind hR (ofSession_keeps hR _) fun key => ?_
  exact Keeps.bind hR (Keeps.change fun f => hc f _) fun _ => Keeps.pure hR _

theorem cipher_keeps (hR : Closed R) (hn : ∀ f nonces, R f { f with nonces })
    (hc : ∀ f chained, R f { f with chained }) (message : Bytes) : Keeps R (cipher message) := by
  intro f
  rw [cipher_run]
  exact hR.trans (hn f _)
    (Keeps.bind hR (ofSession_keeps hR _) (cipherFrom_keeps hR hc message) _)

theorem addSignature_keeps (hR : Closed R) (message : Bytes) : Keeps R (addSignature message) := by
  unfold addSignature
  refine Keeps.bind hR (Keeps.get hR) fun f => ?_
  exact Keeps.bind hR (ofSession_keeps hR _) fun key => Keeps.pure hR _

theorem countersign_keeps (hR : Closed R) (mode : Mode) (hidden : Bytes) :
    Keeps R (if mode.isSigned then addSignature hidden else pure hidden) :=
  Keeps.ite (addSignature_keeps hR hidden) (Keeps.pure hR hidden)

theorem protect_keeps (hR : Closed R) {mode : Mode}
    (hc : mode.isCiphered → ∀ message, Keeps R (cipher message)) (code : UInt16) (data : Bytes) :
    Keeps R (protect mode code data) := by
  unfold protect
  refine Keeps.guarded hR _ ?_
  refine Keeps.bind hR (Keeps.get hR) fun f => ?_
  by_cases h : mode.isCiphered
  · simp only [if_pos h]
    exact Keeps.bind hR (hc h _) (countersign_keeps hR mode)
  · simp only [if_neg h]
    exact Keeps.bind hR (Keeps.pure hR _) (countersign_keeps hR mode)

theorem encode_run (hi lo : UInt8) (data : Bytes) (f : Framer) :
    encode (hi :: lo :: data) f =
      (protect f.mode (Bytes.word hi lo) data >>= fun message =>
        if lengthLimit < message.length then throw (.payloadTooLarge message.length lengthLimit)
        else get >>= fun g => pure (enframe g.control f.mode message))
          { f with lastCode := Bytes.word hi lo } := rfl

theorem encode_keeps (hR : Closed R) (f : Framer)
    (hp : ∀ code data, Keeps R (protect f.mode code data)) (hi lo : UInt8) (data : Bytes) :
    R { f with lastCode := Bytes.word hi lo } (after (encode (hi :: lo :: data) f)) := by
  rw [encode_run]
  refine Keeps.bind hR (hp _ data) (fun message => ?_) _
  exact Keeps.ite (Keeps.throw hR _) (Keeps.bind hR (Keeps.get hR) fun g => Keeps.pure hR _)

/-- The code of a command is noted, whether the command can be framed or not. -/
theorem lastCode_encode (code : UInt16) (data : Bytes) (f : Framer) :
    (after (encode (command code data) f)).lastCode = code := by
  have hR : Closed (fun f g : Framer => g.lastCode = f.lastCode) :=
    ⟨fun _ => rfl, fun hst htu => htu.trans hst⟩
  have hp : ∀ code data, Keeps (fun f g : Framer => g.lastCode = f.lastCode)
      (protect f.mode code data) :=
    protect_keeps hR fun _ => cipher_keeps hR (fun _ _ => rfl) (fun _ _ => rfl)
  have h := encode_keeps hR f hp (Bytes.high code) (Bytes.low code) data
  rw [Bytes.word_high_low] at h
  exact h

theorem encode_unciphered {f : Framer} (hm : ¬ f.mode.isCiphered) (command : Bytes) :
    ∃ code, after (encode command f) = { f with lastCode := code } := by
  match command with
  | [] => exact ⟨f.lastCode, rfl⟩
  | [_] => exact ⟨f.lastCode, rfl⟩
  | hi :: lo :: data =>
    have hp := protect_keeps (R := fun s t : Framer => t = s) closed_eq
      (fun h : f.mode.isCiphered => absurd h hm)
    exact ⟨Bytes.word hi lo, encode_keeps closed_eq f hp hi lo data⟩

theorem checkSignature_keeps (hR : Closed R) (message : Bytes) :
    Keeps R (checkSignature message) := by
  unfold checkSignature
  refine Keeps.guarded hR _ ?_
  refine Keeps.bind hR (Keeps.get hR) fun f => ?_
  refine Keeps.bind hR (ofSession_keeps hR _) fun key => ?_
  exact Keeps.guarded hR _ (Keeps.pure hR _)

theorem decipher_keeps (hR : Closed R) (hc : ∀ f chained, R f { f with chained })
    (message : Bytes) : Keeps R (decipher message) := by
  unfold decipher
  refine Keeps.guarded hR _ ?_
  refine Keeps.bind hR (Keeps.get hR) fun f => ?_
  refine Keeps.bind hR (ofSession_keeps hR _) fun key => ?_
  refine Keeps.bind hR (ofSession_keeps hR _) fun plain => ?_
  exact Keeps.bind hR (Keeps.change fun f => hc f _) fun _ => Keeps.pure hR _

/-- Of all steps that open an answer only deciphering moves the chain on. -/
theorem unprotect_keeps (hR : Closed R) {mode : Mode}
    (hd : mode.isCiphered → ∀ body, Keeps R (decipher body)) (message : Bytes) :
    Keeps R (unprotect mode message) := by
  have read : ∀ plain : Bytes, Keeps R
      (get >>= fun f => Coding.ofExcept (Cursor.run (readAnswer f.type f.lastCode) plain)) := by
    intro plain
    exact Keeps.bind hR (Keeps.get hR) fun f => Coding.ofExcept_keeps hR _
  unfold unprotect
  by_cases hs : mode.isSigned
  · simp only [if_pos hs]
    refine Keeps.bind hR (checkSignature_keeps hR message) fun body => ?_
    by_cases hc : mode.isCiphered
    · simp only [if_pos hc]
      exact Keeps.bind hR (hd hc body) read
    · simp only [if_neg hc]
      exact Keeps.bind hR (Keeps.pure hR body) read
  · simp only [if_neg hs]
    refine Keeps.bind hR (Keeps.pure hR message) fun body => ?_
    by_cases hc : mode.isCiphered
    · simp only [if_pos hc]
      exact Keeps.bind hR (hd hc body) read
    · simp only [if_neg hc]
      exact Keeps.bind hR (Keeps.pure hR body) read

theorem decode_keeps (hR : Closed R) (f : Framer)
    (hd : f.mode.isCiphered → ∀ body, Keeps R (decipher body)) (frame : Bytes) :
    R f (after (decode frame f)) := by
  rw [decode, get_bind_run]
  exact Keeps.bind hR (Coding.ofExcept_keeps hR _) (unprotect_keeps hR hd) f

theorem decode_unciphered {f : Framer} (hm : ¬ f.mode.isCiphered) (frame : Bytes) :
    after (decode frame f) = f :=
  decode_keeps (R := fun s t : Framer => t = s) closed_eq f (fun h => absurd h hm) frame

/-- The framers differ in what an exchange leaves behind at most: the chain of initial values, the
code of the last command, and what is left of the source of nonces. -/
def Alike (f g : Framer) : Prop :=
  ∃ chained lastCode nonces, g = { f with chained, lastCode, nonces }

theorem closed_alike : Closed Alike where
  refl f := ⟨f.chained, f.lastCode, f.nonces, rfl⟩
  trans := by
    rintro f g h ⟨chained, lastCode, nonces, rfl⟩ ⟨chained', lastCode', nonces', rfl⟩
    exact ⟨chained', lastCode', nonces', rfl⟩

theorem encode_alike (command : Bytes) : Keeps Alike (encode command) := by
  intro f
  match command with
  | [] => exact closed_alike.refl f
  | [_] => exact closed_alike.refl f
  | hi :: lo :: data =>
    have hc : ∀ message, Keeps Alike (cipher message) := cipher_keeps closed_alike
      (fun f nonces => ⟨f.chained, f.lastCode, nonces, rfl⟩)
      (fun f chained => ⟨chained, f.lastCode, f.nonces, rfl⟩)
    have hp := encode_keeps closed_alike f (protect_keeps closed_alike fun _ => hc) hi lo data
    exact closed_alike.trans ⟨f.chained, Bytes.word hi lo, f.nonces, rfl⟩ hp

theorem decode_alike (frame : Bytes) : Keeps Alike (decode frame) := by
  have hdecipher : ∀ message, Keeps Alike (decipher message) :=
    decipher_keeps closed_alike fun f chained => ⟨chained, f.lastCode, f.nonces, rfl⟩
  exact fun f => decode_keeps closed_alike f (fun _ => hdecipher) frame

end Stid.Framer

end CardReader
