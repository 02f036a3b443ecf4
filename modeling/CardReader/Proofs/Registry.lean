import CardReader.Proofs.Fleet

namespace CardReader

variable {σ : Type}

namespace Endpoint

def port? : Endpoint → Option String
  | .serial port _ => port
  | .tcp _ _ => none

/-- Name of the link at the endpoint: the port, or host and port. -/
def name? : Endpoint → Option String
  | .serial port _ => port
  | .tcp host port => some (host ++ ":" ++ toString port.toNat)

end Endpoint

/-- Links have the names of the ports, or hosts and ports, that they are made for. -/
structure Outlets.Named [Link σ] (outlets : Outlets σ) : Prop where
  serial : ∀ port line retry, Link.name (outlets.serial port line retry) = port
  socket : ∀ host port patience,
    Link.name (outlets.socket host port patience) = host ++ ":" ++ toString port.toNat

namespace ReaderConfig

variable {c : ReaderConfig}

/-- The keys of a sound configuration are keys. -/
theorem keys_of_validate (h : c.validate = .ok ()) (hfamily : c.family = .stidStr) :
    ∃ hmac aes, c.stid.hmacKeyBytes = .ok hmac ∧ c.stid.aesKeyBytes = .ok aes := by
  obtain ⟨-, -, hoptions⟩ := Run.of_bind_eq_ok h
  unfold checkOptions at hoptions
  rw [hfamily] at hoptions
  dsimp only at hoptions
  obtain ⟨-, -, hmode⟩ := Run.of_bind_eq_ok hoptions
  obtain ⟨-, -, hkeys⟩ := Run.of_bind_eq_ok hmode
  obtain ⟨hmac, hhmac, hrest⟩ := Run.of_bind_eq_ok hkeys
  obtain ⟨aes, haes, -⟩ := Run.of_bind_eq_ok hrest
  exact ⟨hmac, aes, hhmac, haes⟩

/-- A device of its family is made for every sound configuration. -/
theorem ofConfig_of_validate (h : c.validate = .ok ()) :
    ∃ d, AnyDevice.ofConfig c = .ok d ∧ d.family = c.family := by
  unfold AnyDevice.ofConfig
  cases hfamily : c.family with
  | stidStr =>
    obtain ⟨hmac, aes, hhmac, haes⟩ := keys_of_validate h hfamily
    dsimp only
    rw [Stid.Device.ofOptions, hhmac, haes]
    exact ⟨_, rfl, rfl⟩
  | rpleth => exact ⟨_, rfl, rfl⟩
  | osdp => exact ⟨_, rfl, rfl⟩
  | axess => exact ⟨_, rfl, rfl⟩
  | stidPrg => exact ⟨_, rfl, rfl⟩
  | promag => exact ⟨_, rfl, rfl⟩

end ReaderConfig

namespace Registry

/-- The library's own providers for some families. -/
def builtins (families : List Family) : Registry :=
  families.foldl (fun r f => r.register (.builtin f)) empty

/-- The default registry is one of these. -/
theorem defaults_eq : defaults = builtins Family.all := rfl

theorem provider_builtins (families : List Family) (f : Family) :
    (builtins families).provider f = if f ∈ families then some (.builtin f) else none := by
  unfold builtins
  induction families using List.reverseRecOn with
  | nil => rfl
  | append_singleton families g ih =>
    rw [List.foldl_append, List.foldl_cons, List.foldl_nil]
    by_cases hlast : f = g
    · subst hlast
      rw [if_pos (List.mem_append_right families (List.mem_singleton_self f))]
      exact if_pos rfl
    · have hmem : f ∈ families ++ [g] ↔ f ∈ families := by simp [hlast]
      simp only [hmem, ← ih]
      exact if_neg hlast

theorem build_of_validate {c : ReaderConfig} (h : c.validate = .ok ()) :
    ∃ d, (Provider.builtin c.family).build c = .ok d ∧ d.family = c.family := by
  obtain ⟨d, hd, hfamily⟩ := ReaderConfig.ofConfig_of_validate h
  refine ⟨d, ?_, hfamily⟩
  change Provider.buildAny c = _
  rw [Provider.buildAny, hd]

variable {families : List Family} {c : ReaderConfig}

theorem device_invalid (r : Registry) {e : ConfigError} (h : c.validate = .error e) :
    r.device c = .error (.config e) := by
  rw [device, h]

theorem device_missing (h : c.validate = .ok ()) (hmissing : c.family ∉ families) :
    (builtins families).device c = .error (.unsupported (.noProvider c.family)) := by
  rw [device, h, provider_builtins, if_neg hmissing]

theorem device_made (h : c.validate = .ok ()) (hthere : c.family ∈ families) :
    ∃ d, (builtins families).device c = .ok d ∧ d.family = c.family := by
  obtain ⟨d, hd, hfamily⟩ := build_of_validate h
  exact ⟨d, by rw [device, h, provider_builtins, if_pos hthere]; exact hd, hfamily⟩

/-- A reader as it is made for a configuration. -/
structure Fresh [Link σ] (c : ReaderConfig) (r : Reader σ AnyDevice) : Prop where
  state_eq : r.state = .disconnected
  disconnected : r.isConnected = false
  family_eq : Codec.family r.driver = c.family
  name_eq : r.name = c.endpoint.name?

variable {outlets : Outlets σ}

theorem place_taken {port : String} (hport : c.endpoint.port? = some port) {w : World}
    (hused : port ∈ w.ports) (s : Settings) (d : AnyDevice) :
    place outlets c s d w = .error (.portInUse port) := by
  unfold place
  cases hendpoint : c.endpoint with
  | tcp host port =>
    rw [hendpoint] at hport
    contradiction
  | serial named baud =>
    rw [hendpoint] at hport
    obtain rfl : named = some port := hport
    dsimp only
    rw [World.claim?, if_pos (List.contains_iff_mem.mpr hused)]

variable [Link σ]

/-- A device whose port is free is placed, and takes the port that its endpoint names. -/
theorem place_free (houtlets : outlets.Named) {w : World}
    (hfree : ∀ port, c.endpoint.port? = some port → port ∉ w.ports) (s : Settings) {d : AnyDevice}
    (hd : d.family = c.family) :
    ∃ reader, place outlets c s d w =
        .ok (reader, { w with ports := c.endpoint.port?.toList ++ w.ports }) ∧ Fresh c reader := by
  unfold place
  cases hendpoint : c.endpoint with
  | tcp host port =>
    refine ⟨_, rfl, rfl, rfl, hd, ?_⟩
    rw [hendpoint]
    exact congrArg some (houtlets.socket host port s.dataTimeout)
  | serial named baud =>
    cases named with
    | none =>
      refine ⟨_, rfl, rfl, rfl, hd, ?_⟩
      rw [hendpoint]
      rfl
    | some port =>
      have hclaim : w.claim? port = some { w with ports := port :: w.ports } := by
        have hunused := hfree port (by rw [hendpoint]; rfl)
        exact if_neg fun h => hunused (List.contains_iff_mem.mp h)
      dsimp only
      rw [hclaim]
      refine ⟨_, rfl, rfl, rfl, hd, ?_⟩
      rw [hendpoint]
      exact congrArg some (houtlets.serial port _ _)

/-- What the making of a reader comes to, and when. -/
inductive Verdict (families : List Family) (c : ReaderConfig) (w : World) :
    Except ReaderError (Reader σ AnyDevice × World) → Prop
  | invalid {e : ConfigError} (h : c.validate = .error e) : Verdict families c w (.error (.config e))
  | missing (h : c.validate = .ok ()) (hmissing : c.family ∉ families) :
    Verdict families c w (.error (.unsupported (.noProvider c.family)))
  | taken (h : c.validate = .ok ()) (hthere : c.family ∈ families) {port : String}
      (hport : c.endpoint.port? = some port) (hused : port ∈ w.ports) :
    Verdict families c w (.error (.portInUse port))
  | made (h : c.validate = .ok ()) (hthere : c.family ∈ families)
      (hfree : ∀ port, c.endpoint.port? = some port → port ∉ w.ports)
      {reader : Reader σ AnyDevice} (hfresh : Fresh c reader) :
    Verdict families c w (.ok (reader, { w with ports := c.endpoint.port?.toList ++ w.ports }))

/-- The checks of the making of a reader, in the order they are made. -/
theorem create_verdict (houtlets : outlets.Named) (families : List Family) (c : ReaderConfig)
    (s : Settings) (w : World) :
    Verdict families c w ((builtins families).create outlets c s w) := by
  unfold create
  cases h : c.validate with
  | error e =>
    rw [device_invalid _ h]
    exact .invalid h
  | ok _ =>
    by_cases hthere : c.family ∈ families
    · obtain ⟨d, hd, hfamily⟩ := device_made h hthere
      rw [hd]
      dsimp only
      by_cases hused : ∃ port, c.endpoint.port? = some port ∧ port ∈ w.ports
      · obtain ⟨port, hport, hused⟩ := hused
        rw [place_taken hport hused]
        exact .taken h hthere hport hused
      · have hfree : ∀ port, c.endpoint.port? = some port → port ∉ w.ports :=
          fun port hport hmem => hused ⟨port, hport, hmem⟩
        obtain ⟨reader, hmade, hfresh⟩ := place_free houtlets hfree s hfamily
        rw [hmade]
        exact .made h hthere hfree hfresh
    · rw [device_missing h hthere]
      exact .missing h hthere

namespace Verdict

variable {w w' : World} {out : Except ReaderError (Reader σ AnyDevice × World)}

theorem config_iff (h : Verdict families c w out) (e : ConfigError) :
    out = .error (.config e) ↔ c.validate = .error e := by
  cases h with
  | invalid hsound =>
    rw [hsound, Except.error.injEq, Except.error.injEq, ReaderError.config.injEq]
  | missing hsound =>
    rw [hsound]
    exact iff_of_false nofun nofun
  | taken hsound =>
    rw [hsound]
    exact iff_of_false nofun nofun
  | made hsound =>
    rw [hsound]
    exact iff_of_false nofun nofun

theorem unsupported_iff (h : Verdict families c w out) (cause : Unsupported) :
    out = .error (.unsupported cause) ↔
      c.validate = .ok () ∧ c.family ∉ families ∧ cause = .noProvider c.family := by
  cases h with
  | invalid hsound =>
    rw [hsound]
    exact iff_of_false nofun nofun
  | missing hsound hmissing =>
    rw [Except.error.injEq, ReaderError.unsupported.injEq, and_iff_right hsound,
      and_iff_right hmissing]
    exact eq_comm
  | taken hsound hthere => exact iff_of_false nofun fun hnone => hnone.2.1 hthere
  | made hsound hthere => exact iff_of_false nofun fun hnone => hnone.2.1 hthere

theorem portInUse_iff (h : Verdict families c w out) (port : String) :
    out = .error (.portInUse port) ↔ c.validate = .ok () ∧ c.family ∈ families ∧
      c.endpoint.port? = some port ∧ port ∈ w.ports := by
  cases h with
  | invalid hsound =>
    rw [hsound]
    exact iff_of_false nofun nofun
  | missing hsound hmissing => exact iff_of_false nofun fun hthere => hmissing hthere.2.1
  | taken hsound hthere hport hused =>
    rw [Except.error.injEq, ReaderError.portInUse.injEq, and_iff_right hsound,
      and_iff_right hthere, hport, Option.some_inj]
    exact ⟨fun hsame => ⟨hsame, hsame ▸ hused⟩, And.left⟩
  | made hsound hthere hfree =>
    exact iff_of_false nofun fun hused => hfree port hused.2.2.1 hused.2.2.2

/-- A reader is made exactly if none of the three refusals is due. -/
theorem made_iff (h : Verdict families c w out) : (∃ made, out = .ok made) ↔
    c.validate = .ok () ∧ c.family ∈ families ∧
      ∀ port, c.endpoint.port? = some port → port ∉ w.ports := by
  have hfailed : ∀ e : ReaderError,
      ¬∃ made, (.error e : Except ReaderError (Reader σ AnyDevice × World)) = .ok made := by
    rintro e ⟨made, hmade⟩
    contradiction
  cases h with
  | invalid hsound =>
    rw [hsound]
    exact iff_of_false (hfailed _) fun hfree => nomatch hfree.1
  | missing hsound hmissing => exact iff_of_false (hfailed _) fun hfree => hmissing hfree.2.1
  | taken hsound hthere hport hused =>
    exact iff_of_false (hfailed _) fun hfree => hfree.2.2 _ hport hused
  | made hsound hthere hfree => exact iff_of_true ⟨_, rfl⟩ ⟨hsound, hthere, hfree⟩

theorem of_made {reader : Reader σ AnyDevice} (h : Verdict families c w (.ok (reader, w'))) :
    Fresh c reader ∧ w' = { w with ports := c.endpoint.port?.toList ++ w.ports } := by
  cases h with
  | made hsound hthere hfree hfresh => exact ⟨hfresh, rfl⟩

end Verdict

end Registry

namespace Fleet

section

variable {outlets : Outlets σ} {c : ReaderConfig} {s : Settings} {f : Fleet σ}

theorem create_error_iff (e : ReaderError) : (f.create outlets c s).1 = .error e ↔
    f.registry.create outlets c s f.world = .error e := by
  unfold create
  cases f.registry.create outlets c s f.world with
  | error cause => simp only [Except.error.injEq]
  | ok made => exact iff_of_false nofun nofun

theorem create_ok_iff (reader : Reader σ AnyDevice) : (f.create outlets c s).1 = .ok reader ↔
    f.registry.create outlets c s f.world = .ok (reader, (f.create outlets c s).2.world) := by
  unfold create
  cases f.registry.create outlets c s f.world with
  | error cause => exact iff_of_false nofun nofun
  | ok made =>
    obtain ⟨other, w⟩ := made
    simp only [Except.ok.injEq, Prod.mk.injEq, and_true]

theorem create_made_iff : (∃ reader, (f.create outlets c s).1 = .ok reader) ↔
    ∃ made, f.registry.create outlets c s f.world = .ok made := by
  unfold create
  cases f.registry.create outlets c s f.world with
  | error cause =>
    refine iff_of_false ?_ ?_
    · rintro ⟨reader, h⟩
      contradiction
    · rintro ⟨made, h⟩
      contradiction
  | ok made => exact iff_of_true ⟨made.1, rfl⟩ ⟨made, rfl⟩

theorem create_failed {e : ReaderError} (h : f.registry.create outlets c s f.world = .error e) :
    (f.create outlets c s).2.world = f.world := by
  unfold create
  rw [h]

end

variable [Link σ]

/-- Whatever readers there are, whichever registry they are of and whatever happened to them, the
making of another one fails for an unsound configuration, else for a family without a provider, else
for a named port that one of the readers has in use, and for nothing else; in particular a device is
made for every sound configuration. A failure leaves everything as it was, and a reader that is made
is disconnected, of the family and with the name that its configuration says, and takes the port
that is named and no other into use. -/
theorem create_decided (hσ : Link.Named σ) {outlets : Outlets σ} (houtlets : outlets.Named)
    (families : List Family) (registry : Registry) (w : World) {steps : List (Step σ)}
    (hsteps : ∀ step ∈ steps, step.Local) (c : ReaderConfig) (s : Settings) :
    let f := runs { world := { w with ports := [] }, registry } steps
    let made := { f with registry := .builtins families }.create outlets c s
    (∀ e, made.1 = .error (.config e) ↔ c.validate = .error e) ∧
      (∀ cause, made.1 = .error (.unsupported cause) ↔
        c.validate = .ok () ∧ c.family ∉ families ∧ cause = .noProvider c.family) ∧
      (∀ port, made.1 = .error (.portInUse port) ↔
        c.validate = .ok () ∧ c.family ∈ families ∧ c.endpoint.port? = some port ∧
          ∃ n, f.lease? n = some port) ∧
      ((∃ reader, made.1 = .ok reader) ↔
        c.validate = .ok () ∧ c.family ∈ families ∧
          ∀ port, c.endpoint.port? = some port → ¬∃ n, f.lease? n = some port) ∧
      (∀ e, made.1 = .error e → made.2.world = f.world) ∧
      (∀ reader, made.1 = .ok reader →
        reader.state = .disconnected ∧ reader.isConnected = false ∧
        Codec.family reader.driver = c.family ∧ reader.name = c.endpoint.name? ∧
        made.2.world = { f.world with ports := c.endpoint.port?.toList ++ f.world.ports }) ∧
      (c.validate = .ok () → ∃ d, (Provider.builtin c.family).build c = .ok d) := by
  intro f made
  have hstart : Sound [] ({ world := { w with ports := [] }, registry } : Fleet σ) :=
    ⟨.nil, .nil, rfl, fun n r h => by simp [reader?] at h⟩
  have hsound := hstart.runs hσ hsteps
  have hused : ∀ port, port ∈ f.world.ports ↔ ∃ n, f.lease? n = some port :=
    fun port => hsound.perm.mem_iff.trans mem_leases
  have hverdict := Registry.create_verdict houtlets families c s f.world
  refine ⟨fun e => ?_, fun cause => ?_, fun port => ?_, ?_, fun e he => ?_, fun reader hreader => ?_,
    fun h => ?_⟩
  · exact (create_error_iff _).trans (hverdict.config_iff e)
  · exact (create_error_iff _).trans (hverdict.unsupported_iff cause)
  · rw [← hused]
    exact (create_error_iff _).trans (hverdict.portInUse_iff port)
  · simp only [← hused]
    exact create_made_iff.trans hverdict.made_iff
  · exact create_failed ((create_error_iff e).mp he)
  · rw [(create_ok_iff reader).mp hreader] at hverdict
    obtain ⟨hfresh, hworld⟩ := hverdict.of_made
    exact ⟨hfresh.state_eq, hfresh.disconnected, hfresh.family_eq, hfresh.name_eq, hworld⟩
  · obtain ⟨d, hd, -⟩ := Registry.build_of_validate h
    exact ⟨d, hd⟩

end Fleet

theorem VacantLink.named : Link.Named VacantLink where
  connect _ link := by cases link <;> rfl
  disconnect _ _ := rfl
  send _ _ _ := rfl
  receive _ _ _ := rfl

theorem Outlets.vacant_named : Outlets.vacant.Named where
  serial _ _ _ := rfl
  socket _ _ _ := rfl

/-- A reader has a port in use. Others are to be made from fewer families: one at the same port, one
of a family without a provider, one without a host, and one with a key at another port. -/
theorem create_decided_second :
    let first : ReaderConfig := { family := .promag, endpoint := .serial (some "sim0") none }
    let steps : List (Fleet.Step VacantLink) := [.create .vacant first {}]
    let f := { Fleet.runs { registry := .defaults } steps with
      registry := .builtins [.stidStr, .rpleth] }
    let keyed : StidOptions := { hmacKey := "A0 87 75 4B 75 47 48 10 94 BE" }
    Link.Named VacantLink ∧ Outlets.vacant.Named ∧ (∀ step ∈ steps, step.Local) ∧
      (f.create .vacant { first with family := .stidStr } {}).1 = .error (.portInUse "sim0") ∧
      (f.create .vacant first {}).1 = .error (.unsupported (.noProvider .promag)) ∧
      (f.create .vacant { family := .rpleth, endpoint := .tcp "" 23 } {}).1 =
        .error (.config (.invalid .noHost)) ∧
      ∃ reader, (f.create .vacant
        { family := .stidStr, endpoint := .serial (some "sim1") none, stid := keyed } {}).1 =
          .ok reader ∧ reader.name = some "sim1" := by
  intro first steps f keyed
  have hlocal : ∀ step ∈ steps, step.Local := by simp [steps, Fleet.Step.Local]
  have hleases : Fleet.leases f.slots = ["sim0"] := by decide +kernel
  have hheld : "sim0" ∈ Fleet.leases f.slots := by
    rw [hleases]
    exact List.mem_singleton_self "sim0"
  have hfree : ∀ port, some "sim1" = some port → ¬∃ n, f.lease? n = some port := by
    intro port hport hused
    have hmem := Fleet.mem_leases.mpr hused
    rw [hleases, ← Option.some.inj hport] at hmem
    contradiction
  have hdecided := Fleet.create_decided VacantLink.named Outlets.vacant_named
    [.stidStr, .rpleth] .defaults {} hlocal
  refine ⟨VacantLink.named, Outlets.vacant_named, hlocal, ?_, ?_, ?_, ?_⟩
  · obtain ⟨-, -, htaken, -⟩ := hdecided { first with family := .stidStr } {}
    exact (htaken "sim0").mpr ⟨by decide, by decide, rfl, Fleet.mem_leases.mp hheld⟩
  · obtain ⟨-, hmissing, -⟩ := hdecided first {}
    exact (hmissing _).mpr ⟨by decide, by decide, rfl⟩
  · obtain ⟨hinvalid, -⟩ := hdecided { family := .rpleth, endpoint := .tcp "" 23 } {}
    exact (hinvalid _).mpr (by decide)
  · obtain ⟨-, -, -, hmade, -, hfresh, -⟩ := hdecided
      { family := .stidStr, endpoint := .serial (some "sim1") none, stid := keyed } {}
    obtain ⟨reader, hreader⟩ := hmade.mpr ⟨by decide +kernel, by decide, hfree⟩
    exact ⟨reader, hreader, (hfresh reader hreader).2.2.2.1⟩

end CardReader
