import ShaderLowering.Proofs.Lowering.Emitted
import ShaderLowering.Proofs.TypeGraph.Sizable

/-!
# Which declarations are put together into a unit

Putting a unit together asks for the complete types of the interface struct, of what the
globals are places for, and of the functions, one after another, and checks each of them as
soon as it has been made. The checks look into an arena in which some structs have their
bodies and some do not yet, so what is accepted may depend on what was made before.

It does not if the declarations leave nothing incomplete
(`ShaderLowering.Declarations.LeavesNothingOut`). Then each check comes down to a condition
on the declarations alone, and a unit is put together exactly if all of these hold
(`ShaderLowering.Declarations.emit_ok_iff`).
-/

namespace ShaderLowering

/-- Work that goes on after other work ends well exactly if both do. -/
theorem exists_bind_eq_ok {ε α β : Type} {first : Except ε α} {next : α → Except ε β} :
    (∃ b, (first >>= next) = .ok b) ↔ ∃ a, first = .ok a ∧ ∃ b, next a = .ok b := by
  constructor
  · rintro ⟨b, h⟩
    obtain ⟨a, ha, hb⟩ := of_bind_eq_ok h
    exact ⟨a, ha, b, hb⟩
  · rintro ⟨a, rfl, b, hb⟩
    exact ⟨b, hb⟩

/-- A fold ends well exactly if each step does, if whether it does can be told from the
member alone as long as something is kept. -/
theorem foldlM_ok_iff {ε σ α : Type} {step : σ → α → Except ε σ} {P : σ → Prop} {Q : α → Prop}
    {as : List α} (hiff : ∀ s, ∀ a ∈ as, P s → ((∃ s', step s a = .ok s') ↔ Q a))
    (hkeeps : ∀ s, ∀ a ∈ as, ∀ s', step s a = .ok s' → P s → P s') {s : σ} (hs : P s) :
    (∃ s', as.foldlM step s = .ok s') ↔ ∀ a ∈ as, Q a := by
  induction as generalizing s with
  | nil => exact ⟨fun _ => List.forall_mem_nil _, fun _ => ⟨s, rfl⟩⟩
  | cons a as ih =>
    have hrest {s₁ : σ} (hs₁ : P s₁) : (∃ s', as.foldlM step s₁ = .ok s') ↔ ∀ a ∈ as, Q a :=
      ih (fun s b hb => hiff s b (List.mem_cons_of_mem _ hb))
        (fun s b hb => hkeeps s b (List.mem_cons_of_mem _ hb)) hs₁
    have hfirst := hiff s a List.mem_cons_self hs
    rw [List.forall_mem_cons, List.foldlM_cons]
    constructor
    · intro h
      obtain ⟨s₁, hs₁, hfold⟩ := exists_bind_eq_ok.mp h
      have hs₁' := hkeeps s a List.mem_cons_self s₁ hs₁ hs
      exact ⟨hfirst.mp ⟨s₁, hs₁⟩, (hrest hs₁').mp hfold⟩
    · rintro ⟨ha, has⟩
      obtain ⟨s₁, hs₁⟩ := hfirst.mpr ha
      have hs₁' := hkeeps s a List.mem_cons_self s₁ hs₁ hs
      exact exists_bind_eq_ok.mpr ⟨s₁, hs₁, (hrest hs₁').mpr has⟩

namespace Workspace

variable {u w w' : Workspace} {n m : NodeId} {t : Ty} {asked : Request → Prop}

/-- A structural type is made on the way. -/
theorem Course.intern (hw : u.Course asked w) (data : TypeData) :
    u.Course asked { w with arena := (w.arena.intern data).2 } := by
  have hgrows := w.arena.grows_intern data
  have hstep : w.Onward { w with arena := (w.arena.intern data).2 } :=
    ⟨rfl, .congr rfl, hgrows, fun _ _ h => h⟩
  refine ⟨hw.onward.trans hstep, hw.idle, hw.faithful.arena hgrows
    (hw.faithful.uniqued.intern data), fun m => ?_, hw.looped, hw.made,
    hw.honest.congr hstep rfl⟩
  exact (hw.untouched m).arena fun t d => TypeArena.data?_intern_of_data?

/-- What is held by what is asked for is asked for too, and nothing in it is left to lay out
either. -/
theorem Course.held (hu : u.Separate asked) (hw : u.Course asked w) (hn : asked ⟨n, true⟩)
    (hsettled : w.Settled n) (hm : w.Holds n m) : asked ⟨m, true⟩ ∧ w.Settled m := by
  obtain ⟨-, -, hinner⟩ := hsettled
  refine ⟨hu.calls _ _ hn (.held ?_), hinner m hm⟩
  rwa [← holds_congr hw.onward.skeleton]

/-- **A type is given out exactly if it can be made.** -/
theorem Course.require_ok_iff (hu : u.Separate asked) (hw : u.Course asked w)
    (hn : asked ⟨n, true⟩) :
    (∃ made, w.require n true = .ok made) ↔ u.Makeable ⟨n, true⟩ := by
  rw [← hw.produce_ok_iff hu hn, require]
  rcases w.produce n true with ⟨_ | t, w'⟩
  · simp
  · simp

/-- What is given out is the type of the node, in which nothing is left to lay out. -/
theorem Course.of_require (hu : u.Separate asked) (hw : u.Course asked w)
    (hn : asked ⟨n, true⟩) (h : w.require n true = .ok (t, w')) :
    u.Course asked w' ∧ w'.Settled n ∧ w'.handle? n = some t := by
  obtain ⟨hproduced, -⟩ := Workspace.of_require h
  obtain ⟨hw', hsettled⟩ := hw.produced hu hn hproduced
  exact ⟨hw', hsettled, (hproduced.imaged hw.faithful).2.2 t rfl⟩

end Workspace

namespace Declarations

open Workspace

variable {d : Declarations} {w w' : Workspace} {n : NodeId} {t : Ty} {e e' : Emission}
  {g : ShaderGlobal} {f : ShaderFunction}

/-! ### What is asked for -/

/-- **The nodes whose complete types are asked for** when a unit is put together. -/
inductive IsRoot (d : Declarations) : NodeId → Prop
  /-- The interface struct. -/
  | interface {f : Interface} (hf : d.interface = some f) : IsRoot d f.node
  /-- What a global is a place for. -/
  | global {g : ShaderGlobal} {n : NodeId} (hg : g ∈ d.globals)
      (hn : d.workspace.pointee? g.pointerType = some n) : IsRoot d n
  /-- The type of a function. -/
  | function {f : ShaderFunction} (hf : f ∈ d.functions) : IsRoot d f.type

/-- The requests that are made when a unit is put together, and those that they lead to. -/
def Requires (d : Declarations) (r : Request) : Prop :=
  ∃ n, d.IsRoot n ∧ Relation.ReflTransGen d.workspace.Calls ⟨n, true⟩ r

/-- **The declarations leave nothing incomplete**: what is asked for complete is settled if
it is known from the start, or if it is asked for without its structs too, unless it is a
struct itself. -/
def LeavesNothingOut (d : Declarations) : Prop :=
  ∀ n, d.Requires ⟨n, true⟩ →
    (d.workspace.Knows n ∨ d.Requires ⟨n, false⟩ ∧ ¬d.workspace.IsStruct n) →
    d.workspace.Settled n

theorem IsRoot.requires (h : d.IsRoot n) : d.Requires ⟨n, true⟩ :=
  ⟨n, h, .refl⟩

theorem LeavesNothingOut.separate (h : d.LeavesNothingOut) : d.workspace.Separate d.Requires where
  calls r r' hr hcalls := by
    obtain ⟨n, hn, hway⟩ := hr
    exact ⟨n, hn, hway.tail hcalls⟩
  settled := h

/-- To see that nothing is left incomplete it is enough to know of some requests which they
are, as long as they are all that can be made. -/
theorem LeavesNothingOut.of_separate (asked : Request → Prop)
    (hroot : ∀ n, d.IsRoot n → asked ⟨n, true⟩) (h : d.workspace.Separate asked) :
    d.LeavesNothingOut := by
  have hasked {r : Request} (hr : d.Requires r) : asked r := by
    obtain ⟨n, hn, hway⟩ := hr
    induction hway with
    | refl => exact hroot n hn
    | tail _ hcalls ih => exact h.calls _ _ ih hcalls
  rintro n hn (hknown | ⟨hfalse, hstruct⟩)
  · exact h.settled n (hasked hn) (Or.inl hknown)
  · exact h.settled n (hasked hn) (Or.inr ⟨hasked hfalse, hstruct⟩)

/-- A walk ends in the course of answering: nothing has been asked for yet. -/
theorem Sound.course {arena : TypeArena} (hd : d.Sound arena) (hu : arena.Uniqued)
    (hfounded : d.workspace.arena.Founded) (hl : d.LeavesNothingOut) :
    d.workspace.Course d.Requires d.workspace := by
  have hfaithful := hd.faithful hu
  exact ⟨.refl _, hd.idle, hfaithful, hd.history.untouched hu, fun _ => hd.history.looped_holds,
    fun n t ht => hfaithful.makeable_of_handle? hfounded ht, fun n hn hknown =>
    hl n hn (Or.inl hknown)⟩

/-! ### What is accepted -/

/-- A complete type can be made of the node, and values of it can be stored. -/
def Stores (d : Declarations) (n : NodeId) : Prop :=
  d.workspace.Makeable ⟨n, true⟩ ∧ d.workspace.Sizable n

/-- The interface struct can be made, and so can values of all of its members be stored. -/
def AcceptsInterface (d : Declarations) (f : Interface) : Prop :=
  d.workspace.Makeable ⟨f.node, true⟩ ∧
    ∀ m ∈ d.workspace.memberTypes f.node, d.workspace.Sizable m

/-- What the global is a place for can be stored. -/
def AcceptsGlobal (d : Declarations) (g : ShaderGlobal) : Prop :=
  ∃ n, d.workspace.pointee? g.pointerType = some n ∧ d.Stores n

/-- The type of the function can be made, it takes and gives what can be stored, and there
are as many parameters as it takes. -/
structure AcceptsFunction (d : Declarations) (f : ShaderFunction) : Prop where
  makeable : d.workspace.Makeable ⟨f.type, true⟩
  passed : ∀ result args variadic made,
    d.workspace.shape? f.type = some (.formed (.function result args variadic) made) →
    (d.workspace.IsVoid result ∨ d.workspace.Sizable result) ∧
      ∀ arg ∈ args, d.workspace.Sizable arg
  count : f.parameters.length = d.workspace.argCount f.type

/-- **The declarations can be put together into a unit**, as far as each of them goes by
itself. -/
structure Acceptable (d : Declarations) : Prop where
  openFunction : d.openFunction = none
  interface : ∀ f, d.interface = some f → d.AcceptsInterface f
  globals : ∀ g ∈ d.globals, d.AcceptsGlobal g
  entryPoints : ∀ p ∈ d.entryPoints, ∃ f ∈ d.functions, f.id = p.function
  functions : ∀ f ∈ d.functions, d.AcceptsFunction f

/-! ### The interface struct -/

open Emission

/-- The check of the interface passes if every member of the body can be stored, there being
a variable for each. -/
theorem checkInterface_ok_iff {arena : TypeArena} {members : List InterfaceVariable}
    {body : List Ty} (hbody : arena.body? t = some body) (hlength : body.length = members.length) :
    checkInterface arena t members = .ok () ↔ ∀ member ∈ body, arena.isSized member = true := by
  refine ⟨fun h => isSized_of_checkInterface h hbody hlength, fun h => ?_⟩
  have hnone : (body.zip members).find? (fun m => !arena.isSized m.1) = none := by
    refine List.find?_eq_none.mpr fun m hm => ?_
    rw [h m.1 (List.of_mem_zip hm).1]
    simp
  rw [checkInterface, hbody, Option.getD_some, hnone]

/-- Whether the interface passes the check can be told from the types of its members. -/
theorem checkInterface_iff {f : Interface} (hu : d.workspace.Separate d.Requires)
    (hw : d.workspace.Course d.Requires w) (hf : d.interface = some f)
    (hfits : InterfaceFits d.workspace f) (hsettled : w.Settled f.node)
    (ht : w.handle? f.node = some t) :
    checkInterface w.arena t f.members = .ok () ↔
      ∀ m ∈ d.workspace.memberTypes f.node, d.workspace.Sizable m := by
  obtain ⟨type, layout, hs, hlength⟩ := hfits
  obtain ⟨layout', hs', hlayout⟩ := struct_of_skeleton_eq hw.onward.skeleton hs
  rw [handle?_eq hs'] at ht
  obtain rfl : type = t := Option.some.inj ht
  obtain ⟨layout₁, hlayout₁, hc⟩ := hsettled.isComplete ⟨type, layout', hs'⟩
  rw [layout?_eq_some_iff.mpr ⟨type, hs'⟩, Option.some.injEq] at hlayout₁
  obtain ⟨body, hbody, htypes⟩ := hw.faithful.exists_body hs' (hlayout₁ ▸ hc)
  rw [Layout.types_of_skeleton_eq hlayout] at htypes
  have hcount : body.length = f.members.length := by
    rw [← htypes.length_eq, List.length_map, hlength]
  rw [checkInterface_ok_iff hbody hcount, memberTypes_eq hs]
  refine forall_mem_iff_of_forall₂ htypes fun m hm t ht => ?_
  have hholds : w.Holds f.node m := by
    rw [← Layout.types_of_skeleton_eq hlayout] at hm
    exact holds_of_shape? hs' (by simp) hm
  obtain ⟨hasked, hsettled⟩ := hw.held hu (IsRoot.interface hf).requires hsettled hholds
  exact hw.isSized_iff hu hasked hsettled ht

/-- **The interface struct is laid out exactly if it is accepted.** -/
theorem layOutInterface_ok_iff {arena : TypeArena} (hd : d.Sound arena)
    (hu : d.workspace.Separate d.Requires) (hw : d.workspace.Course d.Requires d.workspace) :
    (∃ made, layOutInterface d.workspace d.interface = .ok made) ↔
      ∀ f, d.interface = some f → d.AcceptsInterface f := by
  cases hf : d.interface with
  | none => exact ⟨fun _ => nofun, fun _ => ⟨_, rfl⟩⟩
  | some f =>
    have hroot := (IsRoot.interface hf).requires
    have hrequire := hw.require_ok_iff hu hroot
    have hcheck {t : Ty} {w : Workspace} (h : d.workspace.require f.node true = .ok (t, w)) :
        checkInterface w.arena t f.members = .ok () ↔
          ∀ m ∈ d.workspace.memberTypes f.node, d.workspace.Sizable m := by
      obtain ⟨hw', hsettled, ht⟩ := hw.of_require hu hroot h
      exact checkInterface_iff hu hw' hf (hd.interface f hf) hsettled ht
    constructor
    · rintro ⟨made, h⟩ f' hf'
      obtain rfl := Option.some.inj hf'
      obtain ⟨⟨t, w⟩, hmade, h⟩ := of_bind_eq_ok h
      obtain ⟨_, hchecked, -⟩ := of_bind_eq_ok h
      exact ⟨hrequire.mp ⟨_, hmade⟩, (hcheck hmade).mp hchecked⟩
    · intro h
      obtain ⟨hmakeable, hsizable⟩ := h f rfl
      obtain ⟨⟨t, w⟩, hmade⟩ := hrequire.mpr hmakeable
      have hchecked := (hcheck hmade).mpr hsizable
      exact exists_bind_eq_ok.mpr ⟨_, hmade, exists_bind_eq_ok.mpr ⟨_, hchecked, _, rfl⟩⟩

theorem course_of_layOutInterface {pointer : Option Ty} (hu : d.workspace.Separate d.Requires)
    (hw : d.workspace.Course d.Requires d.workspace)
    (h : layOutInterface d.workspace d.interface = .ok (pointer, w)) :
    d.workspace.Course d.Requires w := by
  cases hf : d.interface with
  | none =>
    rw [hf] at h
    obtain ⟨-, rfl⟩ := Prod.mk.inj (Except.ok.inj h)
    exact hw
  | some f =>
    rw [hf] at h
    obtain ⟨⟨t, w₁⟩, hmade, h⟩ := of_bind_eq_ok h
    obtain ⟨_, -, h⟩ := of_bind_eq_ok h
    obtain ⟨-, rfl⟩ := Prod.mk.inj (Except.ok.inj h)
    obtain ⟨hw₁, -⟩ := hw.of_require hu (IsRoot.interface hf).requires hmade
    exact hw₁.intern _

/-! ### Globals -/

/-- **A global is added exactly if it is accepted.** -/
theorem addGlobal_ok_iff (hu : d.workspace.Separate d.Requires)
    (hw : d.workspace.Course d.Requires e.workspace) (hg : g ∈ d.globals) :
    (∃ e', addGlobal d e g = .ok e') ↔ d.AcceptsGlobal g := by
  have hpointee : (e.workspace.node? g.pointerType).bind Node.pointee? =
      d.workspace.pointee? g.pointerType := pointee?_congr hw.onward.skeleton
  rw [addGlobal, hpointee, AcceptsGlobal]
  cases hn : d.workspace.pointee? g.pointerType with
  | none => simp
  | some n =>
    have hroot := (IsRoot.global hg hn).requires
    have hrequire := hw.require_ok_iff hu hroot
    have hsized {t : Ty} {w : Workspace} (h : e.workspace.require n true = .ok (t, w)) :
        w.arena.isSized t = true ↔ d.workspace.Sizable n := by
      obtain ⟨hw', hsettled, ht⟩ := hw.of_require hu hroot h
      exact hw'.isSized_iff hu hroot hsettled ht
    constructor
    · rintro ⟨e', h⟩
      obtain ⟨⟨t, w⟩, hmade, h⟩ := of_bind_eq_ok h
      refine ⟨n, rfl, hrequire.mp ⟨_, hmade⟩, (hsized hmade).mp ?_⟩
      by_contra hcon
      rw [Bool.not_eq_true] at hcon
      simp [hcon] at h
    · rintro ⟨m, hm, hmakeable, hsizable⟩
      obtain rfl := Option.some.inj hm
      obtain ⟨⟨t, w⟩, hmade⟩ := hrequire.mpr hmakeable
      refine exists_bind_eq_ok.mpr ⟨_, hmade, ?_⟩
      dsimp only
      rw [(hsized hmade).mpr hsizable]
      exact ⟨_, rfl⟩

theorem course_of_addGlobal (hu : d.workspace.Separate d.Requires)
    (hw : d.workspace.Course d.Requires e.workspace) (hg : g ∈ d.globals)
    (h : addGlobal d e g = .ok e') : d.workspace.Course d.Requires e'.workspace := by
  have hpointee : (e.workspace.node? g.pointerType).bind Node.pointee? =
      d.workspace.pointee? g.pointerType := pointee?_congr hw.onward.skeleton
  rw [addGlobal, hpointee] at h
  split at h
  · exact absurd h (by simp)
  · rename_i n hn
    obtain ⟨⟨t, w⟩, hmade, h⟩ := of_bind_eq_ok h
    dsimp only at h
    split at h
    · exact absurd h (by simp)
    · rw [← Except.ok.inj h]
      exact (hw.of_require hu (IsRoot.global hg hn).requires hmade).1

/-! ### Entry points -/

/-- **The entry points are added exactly if their functions are there.** -/
theorem addEntryPoints_ok_iff {type : Ty} {paramNames : List String} {unit : CodeUnit}
    {points : List ShaderEntryPoint} :
    (∃ added, addEntryPoints d type paramNames unit points = .ok added) ↔
      ∀ p ∈ points, ∃ f ∈ d.functions, f.id = p.function := by
  induction points generalizing unit with
  | nil => exact ⟨fun _ => List.forall_mem_nil _, fun _ => ⟨_, rfl⟩⟩
  | cons p points ih =>
    rw [List.forall_mem_cons, addEntryPoints, Emission.addEntryPoint]
    by_cases hdefined : (d.functions.any fun f => f.id = p.function) = true
    · have hp : ∃ f ∈ d.functions, f.id = p.function := by simpa using hdefined
      rw [if_pos hdefined]
      constructor
      · intro h
        obtain ⟨_, hfirst, h⟩ := exists_bind_eq_ok.mp h
        obtain ⟨_, hrest, -⟩ := exists_bind_eq_ok.mp h
        exact ⟨hp, ih.mp ⟨_, hrest⟩⟩
      · rintro ⟨-, h⟩
        obtain ⟨_, hrest⟩ := ih.mpr h
        exact exists_bind_eq_ok.mpr ⟨_, rfl, exists_bind_eq_ok.mpr ⟨_, hrest, _, rfl⟩⟩
    · have hp : ¬∃ f ∈ d.functions, f.id = p.function := by simpa using hdefined
      rw [if_neg hdefined]
      constructor
      · intro h
        obtain ⟨_, hfirst, -⟩ := exists_bind_eq_ok.mp h
        exact absurd hfirst (by simp)
      · rintro ⟨hcon, -⟩
        exact absurd hcon hp

/-! ### Functions -/

/-- The check of a function passes if it gives and takes what can be stored. -/
theorem checkFunction_ok_iff {arena : TypeArena} {result : Ty} {params : List Ty}
    {variadic : Bool} (hdata : arena.data? t = some (.function result params variadic)) :
    checkFunction arena t f = .ok () ↔
      (arena.data? result = some .void ∨ arena.isSized result = true) ∧
        ∀ param ∈ params, arena.isSized param = true := by
  refine ⟨of_checkFunction hdata, ?_⟩
  rintro ⟨hresult, hparams⟩
  have hpassed : ¬(arena.data? result ≠ some .void ∧ (!arena.isSized result) = true) := by
    rintro ⟨hvoid, hunsized⟩
    rcases hresult with h | h
    · exact hvoid h
    · rw [h] at hunsized
      exact absurd hunsized (by simp)
  have hnone : (params.findIdx? fun param => !arena.isSized param) = none := by
    refine List.findIdx?_eq_none_iff.mpr fun param hparam => ?_
    rw [hparams param hparam]
    rfl
  rw [checkFunction, hdata]
  dsimp only
  rw [if_neg hpassed, hnone]

/-- Whether a function passes the check can be told from the nodes of its type. -/
theorem checkFunction_iff (hu : d.workspace.Separate d.Requires)
    (hw : d.workspace.Course d.Requires w) (hf : f ∈ d.functions)
    (hfunction : d.workspace.IsFunction f.type) (hsettled : w.Settled f.type)
    (ht : w.handle? f.type = some t) :
    checkFunction w.arena t f = .ok () ↔
      ∀ result args variadic made,
        d.workspace.shape? f.type = some (.formed (.function result args variadic) made) →
        (d.workspace.IsVoid result ∨ d.workspace.Sizable result) ∧
          ∀ arg ∈ args, d.workspace.Sizable arg := by
  obtain ⟨result, args, variadic, made₀, hs₀⟩ := hfunction
  obtain ⟨made, hs⟩ := formed_of_skeleton_eq hw.onward.skeleton hs₀
  rw [handle?_eq hs] at ht
  obtain rfl : made = some t := ht
  obtain ⟨data, hdata, himage⟩ := hw.faithful.formed _ _ t hs
  have hroot := (IsRoot.function hf).requires
  have hheld {m : NodeId} (hm : m ∈ result :: args) : d.Requires ⟨m, true⟩ ∧ w.Settled m :=
    hw.held hu hroot hsettled (holds_of_shape? hs (by simp) hm)
  cases himage with
  | function hresult hparams =>
    have hresultHeld := hheld List.mem_cons_self
    rw [checkFunction_ok_iff hdata, hw.isVoid_iff hu hresultHeld.1 hresult,
      hw.isSized_iff hu hresultHeld.1 hresultHeld.2 hresult,
      forall_mem_iff_of_forall₂ hparams fun m hm t ht =>
        hw.isSized_iff hu (hheld (List.mem_cons_of_mem _ hm)).1
          (hheld (List.mem_cons_of_mem _ hm)).2 ht]
    constructor
    · rintro h result' args' variadic' made' hs'
      rw [hs₀] at hs'
      cases hs'
      exact h
    · intro h
      exact h _ _ _ _ hs₀

/-- **A function is added exactly if it is accepted.** -/
theorem addFunction_ok_iff (hu : d.workspace.Separate d.Requires)
    (hw : d.workspace.Course d.Requires e.workspace) (hf : f ∈ d.functions)
    (hfunction : d.workspace.IsFunction f.type) :
    (∃ e', addFunction d e f = .ok e') ↔ d.AcceptsFunction f := by
  have hroot := (IsRoot.function hf).requires
  have hrequire := hw.require_ok_iff hu hroot
  have hcheck {t : Ty} {w : Workspace} (h : e.workspace.require f.type true = .ok (t, w)) :=
    have hw' := hw.of_require hu hroot h
    checkFunction_iff hu hw'.1 hf hfunction hw'.2.1 hw'.2.2
  have hcount {t : Ty} {w : Workspace} (h : e.workspace.require f.type true = .ok (t, w)) :
      w.argCount f.type = d.workspace.argCount f.type := by
    obtain ⟨hw', -⟩ := hw.of_require hu hroot h
    exact hw'.onward.graph.argCount hfunction
  constructor
  · rintro ⟨e', h⟩
    obtain ⟨⟨t, w⟩, hmade, h⟩ := of_bind_eq_ok h
    obtain ⟨_, hchecked, h⟩ := of_bind_eq_ok h
    dsimp only at h
    split at h
    · exact absurd h (by simp)
    · rename_i htaken
      have htaken' : w.argCount f.type = f.parameters.length := not_not.mp htaken
      refine ⟨hrequire.mp ⟨_, hmade⟩, (hcheck hmade).mp hchecked, ?_⟩
      rw [← htaken', hcount hmade]
  · rintro ⟨hmakeable, hpassed, hparameters⟩
    obtain ⟨⟨t, w⟩, hmade⟩ := hrequire.mpr hmakeable
    have htaken : ¬(((w.node? f.type).map Node.args).getD []).length ≠ f.parameters.length := by
      rw [hparameters, ← hcount hmade]
      exact fun hcon => hcon rfl
    have hchecked := (hcheck hmade).mpr hpassed
    refine exists_bind_eq_ok.mpr ⟨_, hmade, exists_bind_eq_ok.mpr ⟨_, hchecked, ?_⟩⟩
    dsimp only
    rw [if_neg htaken]
    exact ⟨_, rfl⟩

theorem course_of_addFunction (hu : d.workspace.Separate d.Requires)
    (hw : d.workspace.Course d.Requires e.workspace) (hf : f ∈ d.functions)
    (h : addFunction d e f = .ok e') : d.workspace.Course d.Requires e'.workspace := by
  obtain ⟨⟨t, w⟩, hmade, h⟩ := of_bind_eq_ok h
  obtain ⟨_, -, h⟩ := of_bind_eq_ok h
  dsimp only at h
  split at h
  · exact absurd h (by simp)
  · rw [← Except.ok.inj h]
    exact (hw.of_require hu (IsRoot.function hf).requires hmade).1

/-! ### The whole unit -/

/-- **A unit is put together exactly if each of the declarations is accepted**, provided
that they leave nothing incomplete. What is accepted is a matter of the declarations alone,
and neither their order nor the arena has a part in it. -/
theorem emit_ok_iff {arena : TypeArena} (hd : d.Sound arena) (huniqued : arena.Uniqued)
    (hfounded : d.workspace.arena.Founded) (hl : d.LeavesNothingOut) (name : String) :
    (∃ m, d.emit name = .ok m) ↔ d.Acceptable := by
  have hu := hl.separate
  have hw := hd.course huniqued hfounded hl
  have hinterface := layOutInterface_ok_iff hd hu hw
  have hglobals {e : Emission} (he : d.workspace.Course d.Requires e.workspace) :
      (∃ e', d.globals.foldlM (addGlobal d) e = .ok e') ↔ ∀ g ∈ d.globals, d.AcceptsGlobal g :=
    foldlM_ok_iff (P := fun e => d.workspace.Course d.Requires e.workspace)
      (fun _ g hg he => addGlobal_ok_iff (g := g) hu he hg)
      (fun _ _ hg _ h he => course_of_addGlobal hu he hg h) he
  have hfunctions {e : Emission} (he : d.workspace.Course d.Requires e.workspace) :
      (∃ e', d.functions.foldlM (addFunction d) e = .ok e') ↔
        ∀ f ∈ d.functions, d.AcceptsFunction f :=
    foldlM_ok_iff (P := fun e => d.workspace.Course d.Requires e.workspace)
      (fun _ f hf he => addFunction_ok_iff (f := f) hu he hf (hd.functions f hf))
      (fun _ _ hf _ h he => course_of_addFunction hu he hf h) he
  -- the workspaces in which globals and functions are added
  have hafterInterface {pointer : Option Ty} {w : Workspace}
      (h : layOutInterface d.workspace d.interface = .ok (pointer, w)) :
      d.workspace.Course d.Requires w := course_of_layOutInterface hu hw h
  have hafterGlobals {e e' : Emission} (he : d.workspace.Course d.Requires e.workspace)
      (h : d.globals.foldlM (addGlobal d) e = .ok e') (params : List Ty) :
      d.workspace.Course d.Requires { e'.workspace with
        arena := (e'.workspace.arena.void.2.function e'.workspace.arena.void.1 params false).2 } :=
    have he' : d.workspace.Course d.Requires e'.workspace :=
      foldlM_keeps (P := fun e : Emission => d.workspace.Course d.Requires e.workspace)
        (fun _ _ hg _ h he => course_of_addGlobal hu he hg h) he h
    (he'.intern _).intern _
  rw [emit]
  cases hopen : d.openFunction with
  | some f =>
    refine ⟨fun h => ?_, fun h => ?_⟩
    · obtain ⟨m, hm⟩ := h
      exact absurd hm (by simp)
    · have hnone := h.openFunction
      rw [hopen] at hnone
      exact absurd hnone (by simp)
  | none =>
    constructor
    · intro h
      obtain ⟨⟨pointer, w⟩, hlaid, h⟩ := exists_bind_eq_ok.mp h
      obtain ⟨e, hadded, h⟩ := exists_bind_eq_ok.mp h
      obtain ⟨⟨entryPoints, unit⟩, hpoints, h⟩ := exists_bind_eq_ok.mp h
      obtain ⟨e', hfolded, -⟩ := exists_bind_eq_ok.mp h
      have hw₁ := hafterInterface hlaid
      exact
        { openFunction := hopen
          interface := hinterface.mp ⟨_, hlaid⟩
          globals := (hglobals hw₁).mp ⟨_, hadded⟩
          entryPoints := addEntryPoints_ok_iff.mp ⟨_, hpoints⟩
          functions := (hfunctions (hafterGlobals hw₁ hadded _)).mp ⟨_, hfolded⟩ }
    · intro h
      obtain ⟨⟨pointer, w⟩, hlaid⟩ := hinterface.mpr h.interface
      have hw₁ := hafterInterface hlaid
      obtain ⟨e, hadded⟩ := (hglobals (e := ⟨w, { name }⟩) hw₁).mpr h.globals
      obtain ⟨⟨entryPoints, unit⟩, hpoints⟩ := addEntryPoints_ok_iff.mpr h.entryPoints
      obtain ⟨e', hfolded⟩ :=
        (hfunctions (e := ⟨_, unit⟩) (hafterGlobals hw₁ hadded _)).mpr h.functions
      refine exists_bind_eq_ok.mpr ⟨_, hlaid, exists_bind_eq_ok.mpr ⟨_, hadded, ?_⟩⟩
      refine exists_bind_eq_ok.mpr ⟨_, hpoints, exists_bind_eq_ok.mpr ⟨_, hfolded, ?_⟩⟩
      exact ⟨_, rfl⟩

end Declarations

end ShaderLowering
