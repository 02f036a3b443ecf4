import CardReader.Promag.Framer
import CardReader.Proofs.Delivery

namespace CardReader

namespace Cut

theorem findIdx?_cr (data : Bytes) (h : cr ∉ data) : data.findIdx? (· == cr) = none := by
  rw [List.findIdx?_eq_none_iff]
  intro a ha
  exact beq_false_of_ne fun hcr => h (hcr ▸ ha)

theorem line_open (data : Bytes) (h : cr ∉ data) : line data = .incomplete := by
  rw [line, findIdx?_cr data h]

theorem line_closed (data : Bytes) (h : cr ∉ data) :
    line (data ++ [cr]) = .frame (data.length + 1) := by
  rw [line, List.findIdx?_append, findIdx?_cr data h]
  simp

theorem within_promag_line (capacity : Nat) (rest : Bytes) :
    within capacity .promag (stx :: rest) = line (stx :: rest) := by
  have hstx : ¬(some stx = some esc ∨ some stx = some bel) := by decide
  rw [within_promag, promag, List.head?_cons, if_neg hstx, if_pos rfl]

theorem within_promag_whole (capacity : Nat) (a : UInt8) (rest : Bytes) (ha : a = esc ∨ a = bel) :
    within capacity .promag (a :: rest) = .frame (a :: rest).length := by
  have hwhole : some a = some esc ∨ some a = some bel := ha.imp (congrArg some) (congrArg some)
  rw [within_promag, promag, List.head?_cons, if_pos hwhole]

end Cut

namespace Promag

open Run Channel FrameBuffer

variable {σ : Type} (capacity : Nat)

/-- What a reader answers: a line, the byte for an empty field, or an error with its code. -/
inductive Reply where
  | line (body : Bytes) (hbody : cr ∉ body)
  | vacant
  | failure (code : UInt8)

def Reply.bytes : Reply → Bytes
  | .line body _ => stx :: body ++ [cr]
  | .vacant => [bel]
  | .failure code => [esc, code]

theorem cr_notMem_cons {body : Bytes} (h : cr ∉ body) : cr ∉ stx :: body := by
  rw [List.mem_cons, not_or]
  exact ⟨by decide, h⟩

theorem take_open (part : Bytes) (h : cr ∉ part) :
    take capacity .promag (stx :: part) = (none, stx :: part) := by
  rw [take_cons, Cut.within_promag_line, Cut.line_open _ (cr_notMem_cons h)]

theorem take_closed (body : Bytes) (h : cr ∉ body) :
    take capacity .promag (stx :: body ++ [cr]) = (some (stx :: body ++ [cr]), []) := by
  have hline : Cut.within capacity .promag (stx :: body ++ [cr]) =
      .frame (stx :: body ++ [cr]).length := by
    rw [List.cons_append, Cut.within_promag_line, ← List.cons_append,
      Cut.line_closed _ (cr_notMem_cons h), List.length_append, List.length_singleton]
  rw [List.cons_append] at hline ⊢
  rw [take_cons, hline]
  dsimp only
  rw [List.take_length, List.drop_length]

theorem take_whole (a : UInt8) (rest : Bytes) (ha : a = esc ∨ a = bel) :
    take capacity .promag (a :: rest) = (some (a :: rest), []) := by
  rw [take_cons, Cut.within_promag_whole capacity a rest ha]
  dsimp only
  rw [List.take_length, List.drop_length]

/-- A line settles when its last chunk is there: what came before has no end. -/
theorem settles_line (body : Bytes) (hbody : cr ∉ body) (chunks : List Bytes)
    (hsome : ∀ chunk ∈ chunks, chunk ≠ []) (data : Bytes)
    (hall : data ++ chunks.flatten = stx :: body ++ [cr]) :
    Settles capacity .promag (stx :: body ++ [cr]) data chunks := by
  induction chunks generalizing data with
  | nil =>
    rw [List.flatten_nil, List.append_nil] at hall
    rw [hall]
    exact .here (take_closed capacity body hbody)
  | cons chunk chunks ih =>
    obtain ⟨hchunk, hchunks⟩ := List.forall_mem_cons.mp hsome
    rw [List.flatten_cons, ← List.append_assoc] at hall
    refine .later ?_ (ih hchunks _ hall)
    cases data with
    | nil => exact take_nil capacity .promag
    | cons a part =>
      obtain rfl : a = stx := (List.cons.inj hall).1
      have hpart : part ++ (chunk ++ chunks.flatten) = body ++ [cr] := by
        rw [← List.append_assoc]
        exact (List.cons.inj hall).2
      refine take_open capacity part fun hcr => hbody ?_
      rcases List.append_eq_append_iff.mp hpart with ⟨more, rfl, -⟩ | ⟨tail, rfl, htail⟩
      · exact List.mem_append_left more hcr
      · -- Nothing of the end is in `part`, for the end of the line is still to come.
        rcases List.append_eq_singleton_iff.mp htail.symm with ⟨rfl, -⟩ | ⟨-, hend⟩
        · rwa [List.append_nil] at hcr
        · exact absurd (List.append_eq_nil_iff.mp hend).1 hchunk

section Cuts

variable {a b : UInt8} {chunks : List Bytes} (hsome : ∀ chunk ∈ chunks, chunk ≠ [])
include hsome

theorem chunks_of_nil (hall : chunks.flatten = []) : chunks = [] :=
  List.eq_nil_iff_forall_not_mem.mpr fun chunk hc =>
    hsome chunk hc (List.flatten_eq_nil_iff.mp hall chunk hc)

theorem chunks_of_singleton (hall : chunks.flatten = [a]) : chunks = [[a]] := by
  cases chunks with
  | nil => cases hall
  | cons chunk chunks =>
    obtain ⟨hchunk, hchunks⟩ := List.forall_mem_cons.mp hsome
    rcases List.append_eq_singleton_iff.mp hall with ⟨hnone, -⟩ | ⟨rfl, hmore⟩
    · exact absurd hnone hchunk
    · rw [chunks_of_nil hchunks hmore]

theorem chunks_of_pair (hall : chunks.flatten = [a, b]) :
    chunks = [[a, b]] ∨ chunks = [[a], [b]] := by
  cases chunks with
  | nil => cases hall
  | cons chunk chunks =>
    obtain ⟨hchunk, hchunks⟩ := List.forall_mem_cons.mp hsome
    cases chunk with
    | nil => exact absurd rfl hchunk
    | cons c rest =>
      obtain ⟨rfl, hrest⟩ := List.cons.inj hall
      rcases List.append_eq_singleton_iff.mp hrest with ⟨rfl, hmore⟩ | ⟨rfl, hmore⟩
      · exact .inr (by rw [chunks_of_singleton hchunks hmore])
      · exact .inl (by rw [chunks_of_nil hchunks hmore])

end Cuts

/-- Cut after its first byte, an error settles without its code; nothing else that is cut settles
before it is whole. -/
theorem Reply.settles (reply : Reply) {chunks : List Bytes}
    (hsome : ∀ chunk ∈ chunks, chunk ≠ []) (hall : chunks.flatten = reply.bytes) :
    (∀ code, chunks = [[esc], [code]] → Settles capacity .promag [esc] [] chunks) ∧
      ((∀ code, chunks ≠ [[esc], [code]]) → Settles capacity .promag reply.bytes [] chunks) := by
  constructor
  · rintro code rfl
    exact .later (take_nil capacity .promag) (.here (take_whole capacity esc [] (.inl rfl)))
  · intro huncut
    cases reply with
    | line body hbody => exact settles_line capacity body hbody chunks hsome [] hall
    | vacant =>
      obtain rfl := chunks_of_singleton hsome hall
      exact .later (take_nil capacity .promag) (.here (take_whole capacity bel [] (.inr rfl)))
    | failure code =>
      rcases chunks_of_pair hsome hall with rfl | hcut
      · exact .later (take_nil capacity .promag) (.here (take_whole capacity esc [code] (.inl rfl)))
      · exact absurd hcut (huncut code)

/-- A command is answered by the whole reply of the reader, however it is cut, unless it is an
error cut after its first byte: then an error with code zero is reported, whatever the code is. -/
theorem send_reply [Link σ] {b : Bench σ Framer} {command : Bytes} {chunks : List Bytes}
    (reply : Reply) (hopen : b.channel.isConnected)
    (hcapacity : b.channel.buffer.capacity = defaultCapacity)
    (hsize : reply.bytes.length ≤ 65542) (hall : chunks.flatten = reply.bytes)
    (hwritten : (Link.send b.world.clock command b.channel.link).result = .ok ())
    (hbrings :
      let sent := Link.send b.world.clock command b.channel.link
      Brings (b.world.clock + sent.elapsed + b.channel.timeout) (b.world.clock + sent.elapsed)
        sent.link chunks) :
    (∀ code, chunks = [[esc], [code]] →
        outcome (send command b) = .error (.frame (.status (.promag 0)))) ∧
      ((∀ code, chunks ≠ [[esc], [code]]) →
        outcome (send command b) =
          (outcome (Codec.decode reply.bytes b.driver)).mapError .frame) := by
  have hfit : chunks.flatten.length ≤ b.channel.buffer.capacity := by
    rw [hall, hcapacity]
    exact hsize
  have hframed : Codec.encode command b.driver = .ok command b.driver := rfl
  have hsettles := reply.settles b.channel.buffer.capacity hbrings.ne_nil hall
  constructor
  · intro code hcut
    exact send_settled hopen hframed hwritten hbrings hfit (hsettles.1 code hcut)
  · intro huncut
    exact send_settled hopen hframed hwritten hbrings hfit (hsettles.2 huncut)

/-- A link whose reader answers the next command with these chunks, each after its delay. -/
def answering (events : List (Nat × Bytes)) : ScriptedLink where
  name := "desk"
  reactions := [.deliver (events.map fun e => (e.1, .chunk e.2))]
  connected := true

/-- A bench at such a link, with bytes left over from before. -/
def facing (events : List (Nat × Bytes)) : Bench ScriptedLink Framer :=
  ⟨{ clock := 7 }, ⟨answering events, ⟨[0x02, 0x0D], defaultCapacity⟩, 200, {}⟩, {}⟩

/-- A line whose end comes late. -/
theorem send_reply_late :
    let b := facing [(3, [0x02, 0x30]), (20, [0x41]), (190, [0x0D])]
    let chunks : List Bytes := [[0x02, 0x30], [0x41], [0x0D]]
    b.channel.isConnected ∧ (Link.send 7 [0x52] b.channel.link).result = .ok () ∧
      Brings 207 7 (Link.send 7 [0x52] b.channel.link).link chunks ∧
      (∀ code, chunks ≠ [[esc], [code]]) ∧
      outcome (send [0x52] b) = .ok ⟨[0x30, 0x41], 0⟩ := by
  intro b chunks
  have hbrings : Brings 207 7 (Link.send 7 [0x52] b.channel.link).link chunks := by
    refine .chunk (by decide) rfl (by decide) ?_
    refine .chunk (by decide) rfl (by decide) ?_
    exact .chunk (by decide) rfl (by decide) (.done trivial)
  have huncut : ∀ code, chunks ≠ [[esc], [code]] := by simp [chunks]
  have hwritten : (Link.send b.world.clock [0x52] b.channel.link).result = .ok () := rfl
  have h := send_reply (b := b) (.line [0x30, 0x41] (by decide)) rfl rfl (by decide) rfl hwritten
    hbrings
  exact ⟨rfl, rfl, hbrings, huncut, h.2 huncut⟩

/-- The code of an error that comes in two chunks is not reported, although both come in time. -/
theorem code_lost :
    let b := facing [(3, [0x1B]), (8, [0x31])]
    let chunks : List Bytes := [[0x1B], [0x31]]
    b.channel.isConnected ∧ (Link.send 7 [0x52] b.channel.link).result = .ok () ∧
      Brings 207 7 (Link.send 7 [0x52] b.channel.link).link chunks ∧
      chunks.flatten = (Reply.failure 0x31).bytes ∧
      outcome (Codec.decode (Reply.failure 0x31).bytes b.driver) =
        .error (.status (.promag 0x31)) ∧
      outcome (send [0x52] b) = .error (.frame (.status (.promag 0))) := by
  intro b chunks
  have hbrings : Brings 207 7 (Link.send 7 [0x52] b.channel.link).link chunks := by
    refine .chunk (by decide) rfl (by decide) ?_
    exact .chunk (by decide) rfl (by decide) (.done trivial)
  have hsettles : Settles defaultCapacity .promag [esc] [] chunks :=
    .later (take_nil defaultCapacity .promag)
      (.here (take_whole defaultCapacity esc [] (.inl rfl)))
  have hframed : Codec.encode [0x52] b.driver = .ok [0x52] b.driver := rfl
  have hsend : outcome (send [0x52] b) = .error (.frame (.status (.promag 0))) :=
    send_settled (b := b) rfl hframed rfl hbrings (by decide) hsettles
  exact ⟨rfl, rfl, hbrings, rfl, rfl, hsend⟩

end Promag

end CardReader
