import Mathlib.Data.List.Forall2
import ShaderLowering.Proofs.Target.Growth
import ShaderLowering.Proofs.TypeGraph.Produced

/-!
# The arena is an image of the graph

What has been produced for a node is the image of the node: the data of the type of a
pointer, a function or an array names the types of the nodes it refers to, and a struct
that is complete has a body of the types of its members
(`ShaderLowering.Workspace.Faithful`). Production keeps it so, whether it succeeds or
fails, and it never takes back a type that a node has
(`ShaderLowering.Workspace.Keeps`).

The one delicate point is that a node may be given its type twice, when it is asked for
in the course of its own production. Both times the data is that of the same former and
the same types, so that it is the uniqueness of structural types that makes the second
type the first.
-/

namespace ShaderLowering

/-! ### Lists that go together -/

/-- A member of one of two lists that go together has a counterpart in the other. -/
theorem exists_of_forall₂_left {α β : Type} {R : α → β → Prop} {as : List α} {bs : List β}
    (h : List.Forall₂ R as bs) {a : α} (ha : a ∈ as) : ∃ b ∈ bs, R a b := by
  induction h with
  | nil => exact (List.not_mem_nil ha).elim
  | @cons _ b _ _ hab _ ih =>
    rcases List.mem_cons.mp ha with rfl | ha
    · exact ⟨b, List.mem_cons_self, hab⟩
    · obtain ⟨b', hb', hab'⟩ := ih ha
      exact ⟨b', List.mem_cons_of_mem _ hb', hab'⟩

/-- Lists that go together have members that do in the same places. -/
theorem exists_getElem?_of_forall₂ {α β : Type} {R : α → β → Prop} {as : List α} {bs : List β}
    (h : List.Forall₂ R as bs) {k : Nat} {a : α} (ha : as[k]? = some a) :
    ∃ b, bs[k]? = some b ∧ R a b := by
  obtain ⟨hk, rfl⟩ := List.getElem?_eq_some_iff.mp ha
  have hk' : k < bs.length := h.length_eq ▸ hk
  exact ⟨bs[k], List.getElem?_eq_getElem hk', h.get hk hk'⟩

theorem exists_of_forall₂_right {α β : Type} {R : α → β → Prop} {as : List α} {bs : List β}
    (h : List.Forall₂ R as bs) {b : β} (hb : b ∈ bs) : ∃ a ∈ as, R a b :=
  exists_of_forall₂_left h.flip hb

/-! ### The types of nodes -/

/-- The type that goes with a shape: that of a formed type is there once it is made. -/
def Shape.handle? : Shape → Option Ty
  | .simple type => some type
  | .formed _ made => made
  | .struct type _ => some type

/-- The data that a former gives rise to, the types of nodes being those of `handle`. -/
inductive Former.Image (handle : NodeId → Option Ty) : Former → TypeData → Prop
  /-- A pointer to the type of its pointee. -/
  | pointer {pointee : NodeId} {storage : StorageClass} {type : Ty}
      (h : handle pointee = some type) :
    Image handle (.pointer (some pointee) storage) (.pointer type defaultAddressSpace)
  /-- A function from the types of its arguments to the type of its result. -/
  | function {result : NodeId} {args : List NodeId} {variadic : Bool} {type : Ty}
      {params : List Ty} (hresult : handle result = some type)
      (hparams : List.Forall₂ (fun n t => handle n = some t) args params) :
    Image handle (.function result args variadic) (.function type params variadic)
  /-- An array of the type of its element. -/
  | array {element : NodeId} {count : Nat} {type : Ty} (h : handle element = some type) :
    Image handle (.array element count) (.array type count)

/-- The layout of a struct and the data of its type agree: there is a body, of the types
of the members in order, once the struct is complete, and no member has a place in it
before. -/
structure Layout.Faithful (layout : Layout) (handle : NodeId → Option Ty)
    (data : StructData) : Prop where
  body : layout.complete = true → ∃ types, data.body = some types ∧
    List.Forall₂ (fun n t => handle n = some t) (layout.members.map Member.type) types
  unpacked : layout.complete = true → data.packed = false
  placed : layout.complete = true →
    ∀ (i : Nat) (m : Member), layout.members[i]? = some m → m.bodyIndex = some i
  unplaced : layout.complete = false → ∀ m ∈ layout.members, m.bodyIndex = none

namespace Former

variable {handle handle' : NodeId → Option Ty} {former : Former} {data data' : TypeData}

theorem Image.mono (h : ∀ n t, handle n = some t → handle' n = some t)
    (hi : former.Image handle data) : former.Image handle' data := by
  cases hi with
  | pointer ht => exact .pointer (h _ _ ht)
  | function hresult hparams => exact .function (h _ _ hresult) (hparams.imp h)
  | array ht => exact .array (h _ _ ht)

theorem Image.isStructural (hi : former.Image handle data) : data.IsStructural := by
  cases hi <;> trivial

/-- The image of a former is determined by the types of nodes. -/
theorem Image.unique (hi : former.Image handle data) (hi' : former.Image handle data') :
    data = data' := by
  cases hi with
  | pointer ht =>
    cases hi' with
    | pointer ht' => rw [Option.some.inj (ht.symm.trans ht')]
  | function hresult hparams =>
    cases hi' with
    | function hresult' hparams' =>
      have hunique : Relator.RightUnique fun (n : NodeId) t => handle n = some t :=
        fun _ _ _ ht ht' => Option.some.inj (ht.symm.trans ht')
      rw [Option.some.inj (hresult.symm.trans hresult'),
        List.right_unique_forall₂' hunique hparams hparams']
  | array ht =>
    cases hi' with
    | array ht' => rw [Option.some.inj (ht.symm.trans ht')]

/-- The data made from the types of the nodes that a former refers to is its image. -/
theorem image_of_data? {types : List Ty} (hd : former.data? types = some data)
    (h : List.Forall₂ (fun n t => handle n = some t) former.refs types) :
    former.Image handle data := by
  match former, h with
  | .pointer (some _) _, .cons ht .nil =>
    cases hd
    exact .pointer ht
  | .pointer none _, .nil => exact nomatch hd
  | .function _ _ _, .cons hresult hparams =>
    cases hd
    exact .function hresult hparams
  | .array _ _, .cons ht .nil =>
    cases hd
    exact .array ht

end Former

theorem Layout.Faithful.mono {layout : Layout} {handle handle' : NodeId → Option Ty}
    {data : StructData} (h : ∀ n t, handle n = some t → handle' n = some t)
    (hl : layout.Faithful handle data) : layout.Faithful handle' data where
  body hc := by
    obtain ⟨types, hbody, htypes⟩ := hl.body hc
    exact ⟨types, hbody, htypes.imp h⟩
  unpacked := hl.unpacked
  placed := hl.placed
  unplaced := hl.unplaced

namespace Workspace

/-- The type of a node; a formed one has none until it is produced. -/
def handle? (w : Workspace) (n : NodeId) : Option Ty :=
  (w.shape? n).bind Shape.handle?

/-- **The arena is a faithful image of the graph.** -/
structure Faithful (w : Workspace) : Prop where
  uniqued : w.arena.Uniqued
  formed : ∀ n former t, w.shape? n = some (.formed former (some t)) →
    ∃ data, w.arena.data? t = some data ∧ former.Image w.handle? data
  struct : ∀ n t layout, w.shape? n = some (.struct t layout) →
    ∃ data, w.arena.data? t = some (.struct data) ∧ layout.Faithful w.handle? data
  distinct : ∀ n m t, w.structType? n = some t → w.structType? m = some t → n = m

/-- The arena has at most grown, and every node that had a type has it still. -/
def Keeps (w w' : Workspace) : Prop :=
  w.arena.Grows w'.arena ∧ ∀ n t, w.handle? n = some t → w'.handle? n = some t

theorem Keeps.refl (w : Workspace) : w.Keeps w :=
  ⟨.refl _, fun _ _ h => h⟩

theorem Keeps.trans {u v w : Workspace} (h : u.Keeps v) (h' : v.Keeps w) : u.Keeps w :=
  ⟨h.1.trans h'.1, fun n t ht => h'.2 n t (h.2 n t ht)⟩

variable {w w' : Workspace} {n m : NodeId} {t : Ty} {former : Former} {layout : Layout}

theorem handle?_eq {shape : Shape} (h : w.shape? n = some shape) :
    w.handle? n = shape.handle? := by
  rw [handle?, h]
  rfl

theorem handle?_congr (h : w'.shape? = w.shape?) : w'.handle? = w.handle? := by
  funext n
  rw [handle?, handle?, h]

/-- Guards have no part in it. -/
theorem Faithful.congr (hw : w.Faithful) (hs : w'.shape? = w.shape?)
    (ha : w'.arena = w.arena) : w'.Faithful where
  uniqued := ha ▸ hw.uniqued
  formed := by
    rw [hs, ha, handle?_congr hs]
    exact hw.formed
  struct := by
    rw [hs, ha, handle?_congr hs]
    exact hw.struct
  distinct := by
    rw [show w'.structType? = w.structType? by funext n; rw [structType?, structType?, hs]]
    exact hw.distinct

theorem Keeps.congr (hs : w'.shape? = w.shape?) (ha : w'.arena = w.arena) : w.Keeps w' :=
  ⟨ha ▸ .refl _, fun n t h => by rwa [handle?_congr hs]⟩

/-! ### A type is formed -/

/-- A node that has its type already is given the same type again. -/
theorem Faithful.intern_eq (hw : w.Faithful) {data : TypeData}
    (hs : w.shape? n = some (.formed former (some t))) (hi : former.Image w.handle? data) :
    w.arena.intern data = (t, w.arena) := by
  obtain ⟨data', hdata, hi'⟩ := hw.formed n former t hs
  rw [hi.unique hi']
  exact hw.uniqued.intern_eq hi'.isStructural hdata

theorem shape?_form {made : Option Ty} {data : TypeData}
    (hs : w.shape? n = some (.formed former made)) (m : NodeId) :
    (w.form n data).shape? m =
      if m = n then some (.formed former (some (w.arena.intern data).1)) else w.shape? m := by
  split
  · rename_i hmn
    subst hmn
    obtain ⟨node, hn, hshape⟩ := Option.map_eq_some_iff.mp hs
    have hn' : ({ w with arena := (w.arena.intern data).2 } : Workspace).node? m = some node := hn
    rw [form, shape?_modify_self hn', Node.withMade, hshape]
  · rename_i hmn
    exact shape?_modify_of_ne hmn _

/-- Forming a type takes no type away. -/
theorem Faithful.keeps_form (hw : w.Faithful) {made : Option Ty} {data : TypeData}
    (hs : w.shape? n = some (.formed former made)) (hi : former.Image w.handle? data) :
    w.Keeps (w.form n data) := by
  refine ⟨w.arena.grows_intern data, fun m t ht => ?_⟩
  rw [handle?, shape?_form hs]
  split
  · rename_i hmn
    rw [hmn, handle?_eq hs] at ht
    cases made with
    | none => exact nomatch ht
    | some t' =>
      cases ht
      rw [hw.intern_eq hs hi]
      rfl
  · exact ht

theorem handle?_form {made : Option Ty} {data : TypeData}
    (hs : w.shape? n = some (.formed former made)) :
    (w.form n data).handle? n = some (w.arena.intern data).1 := by
  rw [handle?, shape?_form hs, if_pos rfl]
  rfl

theorem Faithful.form (hw : w.Faithful) {made : Option Ty} {data : TypeData}
    (hs : w.shape? n = some (.formed former made)) (hi : former.Image w.handle? data) :
    (w.form n data).Faithful := by
  have hkeeps := (hw.keeps_form hs hi).2
  -- a struct is another node, and is as it was
  have hstruct {m : NodeId} {t : Ty} {layout : Layout}
      (hm : (w.form n data).shape? m = some (.struct t layout)) :
      w.shape? m = some (.struct t layout) := by
    rw [shape?_form hs] at hm
    split at hm
    · exact absurd hm (by simp)
    · exact hm
  refine ⟨hw.uniqued.intern data, fun m former' t hm => ?_, fun m t layout hm => ?_,
    structType?_of_skeleton_eq (w.skeleton_form n data) ▸ hw.distinct⟩
  · rw [shape?_form hs] at hm
    split at hm
    · cases hm
      exact ⟨data, w.arena.data?_intern data, hi.mono hkeeps⟩
    · obtain ⟨data', hdata, hi'⟩ := hw.formed m former' t hm
      exact ⟨data', TypeArena.data?_intern_of_data? hdata, hi'.mono hkeeps⟩
  · obtain ⟨data', hdata, hl⟩ := hw.struct m t layout (hstruct hm)
    exact ⟨data', TypeArena.data?_intern_of_data? hdata, hl.mono hkeeps⟩

/-! ### A struct is laid out -/

theorem shape?_mapLayout (hs : w.shape? n = some (.struct t layout)) (f : Layout → Layout)
    (m : NodeId) :
    (w.modify n fun node => node.mapLayout f).shape? m =
      if m = n then some (.struct t (f layout)) else w.shape? m := by
  split
  · rename_i hmn
    subst hmn
    obtain ⟨node, hn, hshape⟩ := Option.map_eq_some_iff.mp hs
    rw [shape?_modify_self hn, Node.mapLayout, hshape]
  · rename_i hmn
    exact shape?_modify_of_ne hmn _

/-- A struct has its type before and after a change to its layout. -/
theorem handle?_mapLayout (hs : w.shape? n = some (.struct t layout)) (f : Layout → Layout) :
    (w.modify n fun node => node.mapLayout f).handle? = w.handle? := by
  funext m
  rw [handle?, shape?_mapLayout hs]
  split
  · rename_i hmn
    rw [hmn, handle?_eq hs]
    rfl
  · rfl

theorem Faithful.looped (hw : w.Faithful) (hs : w.shape? n = some (.struct t layout)) :
    (w.modify n fun node => node.mapLayout Layout.looped).Faithful := by
  have hshape := shape?_mapLayout hs Layout.looped
  have hhandle := handle?_mapLayout hs Layout.looped
  refine ⟨hw.uniqued, fun m former t' hm => ?_, fun m t' layout' hm => ?_,
    structType?_of_skeleton_eq (w.skeleton_looped n) ▸ hw.distinct⟩
  · rw [hshape] at hm
    split at hm
    · exact absurd hm (by simp)
    · rw [hhandle]
      exact hw.formed m former t' hm
  · rw [hshape] at hm
    split at hm
    · cases hm
      obtain ⟨data, hdata, hl⟩ := hw.struct n t layout hs
      exact ⟨data, hdata, hhandle ▸ ⟨hl.body, hl.unpacked, hl.placed, hl.unplaced⟩⟩
    · rw [hhandle]
      exact hw.struct m t' layout' hm

theorem Layout.Faithful.laidOut {handle : NodeId → Option Ty} {types : List Ty}
    (h : List.Forall₂ (fun n t => handle n = some t) (layout.members.map Member.type) types)
    (name : String) : layout.laidOut.Faithful handle ⟨name, some types, false⟩ where
  body _ := ⟨types, rfl, (Layout.types_of_skeleton_eq layout.skeleton_laidOut) ▸ h⟩
  unpacked _ := rfl
  placed _ i m hm := by
    simp only [Layout.laidOut, List.getElem?_mapIdx, Option.map_eq_some_iff] at hm
    obtain ⟨before, -, rfl⟩ := hm
    rfl
  unplaced hc := by cases hc

theorem Faithful.layOut (hw : w.Faithful) {types : List Ty} {arena : TypeArena}
    (hs : w.shape? n = some (.struct t layout))
    (htypes : List.Forall₂ (fun n t => w.handle? n = some t)
      (layout.members.map Member.type) types)
    (hb : w.arena.setBody t types false = .ok arena) : (w.layOut n arena).Faithful := by
  have hshape := shape?_mapLayout (w := { w with arena }) hs Layout.laidOut
  have hhandle : (w.layOut n arena).handle? = w.handle? :=
    handle?_mapLayout (w := { w with arena }) hs Layout.laidOut
  obtain ⟨name, packed, hbare, hdata⟩ := TypeArena.data?_setBody hb
  have hn : w.structType? n = some t := structType?_eq_some_iff.mpr ⟨layout, hs⟩
  refine ⟨hw.uniqued.setBody hb, fun m former t' hm => ?_, fun m t' layout' hm => ?_,
    structType?_of_skeleton_eq (w.skeleton_layOut n arena) ▸ hw.distinct⟩
  · rw [Workspace.layOut, hshape] at hm
    split at hm
    · exact absurd hm (by simp)
    -- the type of a formed node is none that gets a body
    · obtain ⟨data, hd, hi⟩ := hw.formed m former t' hm
      refine ⟨data, ?_, hhandle ▸ hi⟩
      change arena.data? t' = some data
      rw [hdata, if_neg, hd]
      rintro rfl
      rw [hd, Option.some.injEq] at hbare
      exact (hbare ▸ hi.isStructural : TypeData.IsStructural (.struct _))
  · rw [Workspace.layOut, hshape] at hm
    rw [hhandle]
    split at hm
    · cases hm
      refine ⟨_, ?_, Layout.Faithful.laidOut htypes name⟩
      change arena.data? t = _
      rw [hdata, if_pos rfl]
    -- nor is that of another struct, as no two structs share a type
    · rename_i hmn
      obtain ⟨data, hd, hl⟩ := hw.struct m t' layout' hm
      refine ⟨data, ?_, hl⟩
      change arena.data? t' = _
      rw [hdata, if_neg, hd]
      rintro rfl
      exact hmn (hw.distinct m n t' (structType?_eq_some_iff.mpr ⟨layout', hm⟩) hn)

theorem keeps_layOut {types : List Ty} {arena : TypeArena}
    (hs : w.shape? n = some (.struct t layout))
    (hb : w.arena.setBody t types false = .ok arena) : w.Keeps (w.layOut n arena) := by
  have hhandle : (w.layOut n arena).handle? = w.handle? :=
    handle?_mapLayout (w := { w with arena }) hs Layout.laidOut
  exact ⟨TypeArena.grows_setBody hb, fun m t' h => by rwa [hhandle]⟩

end Workspace

/-! ### Requests -/

/-- What a request does to a faithful workspace: it stays so, no type is taken back,
and the type that is answered is that of the node. -/
def Imaged : Answers := fun r w result w' =>
  w.Faithful → w'.Faithful ∧ w.Keeps w' ∧ ∀ t, result = .ok t → w'.handle? r.node = some t

theorem InTurn.imaged {rs : List Request} {w w' : Workspace}
    {result : Except Diagnostic (List Ty)} (h : InTurn Imaged rs w result w')
    (hw : w.Faithful) :
    w'.Faithful ∧ w.Keeps w' ∧ ∀ ts, result = .ok ts →
      List.Forall₂ (fun n t => w'.handle? n = some t) (rs.map Request.node) ts := by
  induction h with
  | nil w => exact ⟨hw, .refl w, fun ts hts => Except.ok.inj hts ▸ .nil⟩
  | stop head =>
    obtain ⟨hw', hkeeps, -⟩ := head hw
    exact ⟨hw', hkeeps, nofun⟩
  | stopLater head _ ih =>
    obtain ⟨hw₁, hkeeps, -⟩ := head hw
    obtain ⟨hw', hkeeps', -⟩ := ih hw₁
    exact ⟨hw', hkeeps.trans hkeeps', nofun⟩
  | cons head _ ih =>
    obtain ⟨hw₁, hkeeps, ht⟩ := head hw
    obtain ⟨hw', hkeeps', hts⟩ := ih hw₁
    refine ⟨hw', hkeeps.trans hkeeps', fun ts hts' => ?_⟩
    rw [← Except.ok.inj hts']
    exact .cons (hkeeps'.2 _ _ (ht _ rfl)) (hts _ rfl)

/-- What the requests made inside a node do, and that the node refers to what it did once
they are answered. -/
theorem InTurn.imaged_enter {rs : List Request} {n : NodeId} {w w' : Workspace}
    {result : Except Diagnostic (List Ty)} (hw : w.Faithful)
    (h : InTurn (fun r w result w' => Produced r w result w' ∧ Imaged r w result w')
      rs (w.enter n) result w') :
    w'.Faithful ∧ w.Keeps w' ∧ (∀ ts, result = .ok ts →
      List.Forall₂ (fun n t => w'.handle? n = some t) (rs.map Request.node) ts) ∧
      w'.skeleton = w.skeleton := by
  obtain ⟨hw', hkeeps, hts⟩ := h.right.imaged (hw.congr (w.shape?_enter n) rfl)
  have henter : w.Keeps (w.enter n) := .congr (w.shape?_enter n) rfl
  exact ⟨hw', henter.trans hkeeps, hts, h.left.skeleton_eq.trans (w.skeleton_enter n)⟩

namespace Workspace

variable {w w' : Workspace} {n : NodeId} {t : Ty}

/-- A node whose type is known without further requests has that type. -/
theorem handle?_of_known? {node : Node} {complete : Bool} (hn : w.node? n = some node)
    (ht : node.known? complete = some t) : w.handle? n = some t := by
  rw [handle?_eq (shape?_eq hn)]
  unfold Node.known? at ht
  split at ht
  · rename_i hs
    rw [hs]
    exact ht
  · rename_i hs
    rw [hs]
    exact ht
  · rename_i hs
    rw [hs]
    split at ht
    · exact absurd ht (by simp)
    · exact ht

end Workspace

/-- **Production keeps the arena an image of the graph**, and answers with the type of the
node. -/
theorem Produced.imaged {r : Request} {w w' : Workspace} {result : Except Diagnostic Ty}
    (h : Produced r w result w') : Imaged r w result w' := by
  refine h.induct (motive := Imaged) fun {r w result w'} h hw => ?_
  have hleave {n : NodeId} {w₁ : Workspace} (hw₁ : w₁.Faithful) (hkeeps : w.Keeps w₁) :
      (w₁.leave n).Faithful ∧ w.Keeps (w₁.leave n) :=
    ⟨hw₁.congr (Workspace.shape?_leave w₁ n) rfl,
      hkeeps.trans (.congr (Workspace.shape?_leave w₁ n) rfl)⟩
  cases h with
  | missing hn => exact ⟨hw, .refl w, nofun⟩
  | known hn ht =>
    refine ⟨hw, .refl w, fun t' ht' => ?_⟩
    rw [← Except.ok.inj ht']
    exact Workspace.handle?_of_known? hn ht
  | full hn hk hfull => exact ⟨hw, .refl w, nofun⟩
  | unbound hn hs hroom => exact ⟨hw, .refl w, nofun⟩
  | nested hn hs hk hroom hheld =>
    have hshape := Workspace.shape?_eq_of_shape_eq hn hs
    have hhandle := Workspace.handle?_mapLayout hshape Layout.looped
    refine ⟨hw.looped hshape, ⟨.refl _, fun m t h => by rwa [hhandle]⟩, fun t' ht' => ?_⟩
    rw [← Except.ok.inj ht', hhandle, Workspace.handle?_eq hshape]
    rfl
  | failed hn ho h =>
    obtain ⟨hw₁, hkeeps, -⟩ := h.imaged_enter hw
    exact ⟨(hleave hw₁ hkeeps).1, (hleave hw₁ hkeeps).2, nofun⟩
  | looped hn hs ho h hl =>
    obtain ⟨hw₁, hkeeps, -⟩ := h.imaged_enter hw
    exact ⟨(hleave hw₁ hkeeps).1, (hleave hw₁ hkeeps).2, nofun⟩
  | refused hn hs ho h hl hb =>
    obtain ⟨hw₁, hkeeps, -⟩ := h.imaged_enter hw
    exact ⟨(hleave hw₁ hkeeps).1, (hleave hw₁ hkeeps).2, nofun⟩
  | @formed n complete _ w₁ node former types data hn hs ho h hd =>
    obtain ⟨hw₁, hkeeps, htypes, hskeleton⟩ := h.imaged_enter hw
    have hrefs : (node.requests complete).map Request.node = former.refs := by
      rw [node.map_node_requests, Node.refs, hs]
    have himage := Former.image_of_data? hd (hrefs ▸ htypes _ rfl)
    obtain ⟨made, hshape⟩ := Workspace.formed_of_skeleton_eq hskeleton
      (Workspace.shape?_eq_of_shape_eq hn hs)
    obtain ⟨hw', hkeeps'⟩ :=
      hleave (hw₁.form hshape himage) (hkeeps.trans (hw₁.keeps_form hshape himage))
    refine ⟨hw', hkeeps', fun t ht => ?_⟩
    rw [Workspace.handle?_congr (Workspace.shape?_leave _ n), ← Except.ok.inj ht]
    exact Workspace.handle?_form hshape
  | @laidOut n complete _ w₁ node t layout types arena hn hs ho h hl hb =>
    obtain ⟨hw₁, hkeeps, htypes, hskeleton⟩ := h.imaged_enter hw
    have hshape := Workspace.shape?_eq_of_shape_eq hn hs
    obtain ⟨layout₁, hshape₁, hlayout⟩ := Workspace.struct_of_skeleton_eq hskeleton hshape
    have hrefs : (node.requests complete).map Request.node =
        layout₁.members.map Member.type := by
      rw [node.map_node_requests, Node.refs, hs, Layout.types_of_skeleton_eq hlayout]
    obtain ⟨hw', hkeeps'⟩ := hleave (hw₁.layOut hshape₁ (hrefs ▸ htypes _ rfl) hb)
      (hkeeps.trans (Workspace.keeps_layOut hshape₁ hb))
    refine ⟨hw', hkeeps', fun t' ht' => ?_⟩
    -- a struct had its type all along
    rw [← Except.ok.inj ht']
    refine hkeeps'.2 n t ?_
    rw [Workspace.handle?_eq hshape]
    rfl

end ShaderLowering
