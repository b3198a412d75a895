import Mathlib.Data.List.Forall2
import Mathlib.Data.List.TakeWhile
import TypedClients.Proofs.Sequencing
import TypedClients.Source.Unit

/-!
# Where the tags of a parameter stand

The tags of a parameter stand beside its type, in a wrapper of it, or a tag is its default value. Of
several wrappers around each other all are taken off the type, but the tags of the outermost one
alone are read: `parameter_tagged`. A single call beside a type can as well be the default value,
which `argumentParams_of_tagsMove` says of whole signatures.
-/
namespace TypedClients

open TypedClients.Code

/-! ### Wrappers around each other -/

/-- A wrapper that adds tags to a type, and what it has beside the type. -/
structure TagLayer where
  wrapper : Expr
  names : wrapper.baseName? = some taggedType
  tags : List Expr

namespace Code.Expr

/-- A type in wrappers around each other, the outermost one first. -/
def tagged (type : Expr) : List TagLayer → Expr
  | [] => type
  | layer :: layers => .subscript layer.wrapper (.tuple (tagged type layers :: layer.tags))

/-- Whether the outside of a type is a wrapper that adds tags to it. -/
def isTagged : Expr → Bool
  | .subscript value (.tuple (_ :: _)) => value.baseName? == some taggedType
  | _ => false

@[simp] theorem untagged_tagged (type : Expr) (layers : List TagLayer) :
    (type.tagged layers).untagged = type.untagged := by
  induction layers with
  | nil => rfl
  | cons layer layers ih => rw [tagged, untagged, if_pos layer.names, ih]

theorem untagged_of_isTagged {e : Expr} (h : e.isTagged = false) : e.untagged = e := by
  unfold untagged
  split
  · rename_i heq
    rw [isTagged, beq_eq_false_iff_ne] at h
    exact if_neg h
  · rfl

end Code.Expr

theorem besideType_of_isTagged {e : Expr} (h : e.isTagged = false) : besideType (some e) = [] := by
  unfold besideType
  split
  · rename_i value items heq
    cases heq
    cases items with
    | nil => simp
    | cons type tags =>
        rw [Expr.isTagged, beq_eq_false_iff_ne] at h
        exact if_neg h
  · rfl

@[simp] theorem besideType_tagged (type : Expr) (layer : TagLayer) (layers : List TagLayer) :
    besideType (some (type.tagged (layer :: layers))) = layer.tags := by
  rw [Expr.tagged, besideType, if_pos layer.names, List.drop_one, List.tail_cons]

/-- One wrapper with the tags of several, those of the inner ones first. -/
def TagLayer.flattened (outer : TagLayer) (inner : List TagLayer) : TagLayer :=
  { outer with tags := (inner.reverse.flatMap (·.tags)) ++ outer.tags }

namespace SourceModule

variable (m : SourceModule) (project : Option SourceProject)

/-- A type in wrappers around each other is read without any of them and with the tags of the
outermost one. It is read as in one wrapper with all tags exactly if none of the others has anything
that makes a tag. -/
theorem parameter_tagged (name : String) (default : Option Expr) (type : Expr) (outer : TagLayer)
    (inner : List TagLayer) :
    m.parameter project ⟨name, some (type.tagged (outer :: inner)), default⟩ =
      { name
        tags := (outer.tags ++ taggingDefault default).filterMap Tag.ofExpr?
        type := SourceType.ofExpr (some type) m project } ∧
    (m.parameter project ⟨name, some (type.tagged (outer :: inner)), default⟩ =
        m.parameter project ⟨name, some (type.tagged [outer.flattened inner]), default⟩ ↔
      ∀ layer ∈ inner, ∀ e ∈ layer.tags, Tag.ofExpr? e = none) := by
  have hread (outer : TagLayer) (inner : List TagLayer) :
      m.parameter project ⟨name, some (type.tagged (outer :: inner)), default⟩ =
        { name
          tags := (outer.tags ++ taggingDefault default).filterMap Tag.ofExpr?
          type := SourceType.ofExpr (some type) m project } := by
    simp only [parameter, taggingParts, besideType_tagged, SourceType.ofExpr, Option.map_some,
      Expr.untagged_tagged]
  refine ⟨hread outer inner, ?_⟩
  rw [hread, hread, Parameter.mk.injEq]
  simp only [TagLayer.flattened, List.append_assoc, List.filterMap_append, true_and, and_true]
  rw [List.self_eq_append_left, List.filterMap_eq_nil_iff]
  simp only [List.mem_flatMap, List.mem_reverse, forall_exists_index, and_imp]
  constructor
  · exact fun h layer hlayer e he => h e layer hlayer he
  · exact fun h e layer hlayer he => h layer hlayer e he

/-- A wrapper by the name that it usually has. -/
def tagLayer (tags : List Expr) : TagLayer := ⟨.name "Annotated", rfl, tags⟩

/-- The binding of a parameter is lost where its type gets another wrapper. -/
theorem not_parameter_tagged : ¬ ∀ (m : SourceModule) (project : Option SourceProject)
    (name : String) (default : Option Expr) (type : Expr) (outer : TagLayer)
    (inner : List TagLayer),
      m.parameter project ⟨name, some (type.tagged (outer :: inner)), default⟩ =
        m.parameter project ⟨name, some (type.tagged [outer.flattened inner]), default⟩ := by
  intro h
  have hsame := h default none "id" none (.name "int")
    (tagLayer [.call (.name "Doc") [.string "key"] []])
    [tagLayer [.call (.name "Param") [.string "id"] []]]
  exact absurd (congrArg (·.tags.length) hsame) (by decide)

end SourceModule

/-! ### Calls as default values -/

/-- A parameter with a single call beside its type may have it as its default value instead, where
it has no other and the type is in no further wrapper. -/
inductive Code.Param.TagMoves : Param Expr → Param Expr → Prop
  | stays (p : Param Expr) : TagMoves p p
  | moves (name : String) {wrapper type : Expr} (callee : Expr) (args : List Expr)
      (keywords : List (Keyword Expr)) (hwrapper : wrapper.baseName? = some taggedType)
      (htype : type.isTagged = false) :
      TagMoves ⟨name, some (.subscript wrapper (.tuple [type, .call callee args keywords])), none⟩
        ⟨name, some type, some (.call callee args keywords)⟩

/-- Parameters that are read alike. -/
structure Code.Param.ReadsAlike (p q : Param Expr) : Prop where
  name : p.name = q.name
  tags : SourceModule.taggingParts p = SourceModule.taggingParts q
  type : p.hint.map Expr.untagged = q.hint.map Expr.untagged

theorem Code.Param.TagMoves.readsAlike {p q : Param Expr} (h : p.TagMoves q) : p.ReadsAlike q := by
  cases h with
  | stays => exact ⟨rfl, rfl, rfl⟩
  | @moves name wrapper type callee args keywords hwrapper htype =>
      let tag : Expr := .call callee args keywords
      have hbeside : besideType (some (.subscript wrapper (.tuple [type, tag]))) = [tag] :=
        if_pos hwrapper
      have htypes : Expr.untagged (.subscript wrapper (.tuple [type, tag])) = type.untagged :=
        if_pos hwrapper
      refine ⟨rfl, ?_, congrArg some htypes⟩
      change besideType _ ++ [] = besideType (some type) ++ [tag]
      rw [hbeside, besideType_of_isTagged htype]
      rfl

theorem SourceModule.parameter_of_readsAlike (m : SourceModule) (project : Option SourceProject)
    {p q : Param Expr} (h : p.ReadsAlike q) : m.parameter project p = m.parameter project q := by
  simp only [parameter, SourceType.ofExpr, h.name, h.tags, h.type]

/-- Signatures of which some parameters have a call as a default value in the second one that stands
beside the type in the first one. -/
structure Code.Params.TagsMove (ps qs : Params Expr) : Prop where
  positionalOnly : List.Forall₂ Param.TagMoves ps.positionalOnly qs.positionalOnly
  ordinary : List.Forall₂ Param.TagMoves ps.ordinary qs.ordinary
  rest : ps.rest = qs.rest
  keywordOnly : List.Forall₂ Param.TagMoves ps.keywordOnly qs.keywordOnly
  keywords : ps.keywords = qs.keywords

/-- The parameters that arguments can be given for are related where those of the signatures are. -/
theorem argumentParams_of_forall₂ {R : Param Expr → Param Expr → Prop} {ps qs : Params Expr}
    (hpositionalOnly : List.Forall₂ R ps.positionalOnly qs.positionalOnly)
    (hordinary : List.Forall₂ R ps.ordinary qs.ordinary)
    (hkeywordOnly : List.Forall₂ R ps.keywordOnly qs.keywordOnly) (static : Bool) :
    List.Forall₂ R (SourceModule.argumentParams static ps) (SourceModule.argumentParams static qs) := by
  have hpositional := List.rel_append hpositionalOnly hordinary
  refine List.rel_append ?_ hkeywordOnly
  cases static with
  | true => exact hpositional
  | false => exact List.forall₂_drop 1 hpositional

theorem argumentParams_of_tagsMove {ps qs : Params Expr} (h : ps.TagsMove qs) (static : Bool) :
    List.Forall₂ Param.TagMoves (SourceModule.argumentParams static ps)
      (SourceModule.argumentParams static qs) :=
  argumentParams_of_forall₂ h.positionalOnly h.ordinary h.keywordOnly static

/-! ### Default values apart from the parameters -/

/-- A signature as two lists of names with their types, and the default values apart from them. The
ones of positional parameters belong to the last of these, each keyword-only parameter has a place
for its own. -/
structure Signature where
  positional : List (String × Option Expr)
  defaults : List Expr
  keywordOnly : List (String × Option Expr)
  keywordDefaults : List (Option Expr)

namespace Signature

def ofParams (ps : Params Expr) : Signature where
  positional := (ps.positionalOnly ++ ps.ordinary).map fun p => (p.name, p.hint)
  defaults := (ps.positionalOnly ++ ps.ordinary).filterMap (·.default)
  keywordOnly := ps.keywordOnly.map fun p => (p.name, p.hint)
  keywordDefaults := ps.keywordOnly.map (·.default)

def withDefault (p : String × Option Expr) (default : Option Expr) : Param Expr :=
  ⟨p.1, p.2, default⟩

/-- The default values of positional parameters, one place for each. They come last. -/
def positionalDefaults (s : Signature) : List (Option Expr) :=
  List.replicate (s.positional.length - s.defaults.length) none ++ s.defaults.map some

/-- The parameters that arguments can be given for, without the instance. -/
def arguments (static : Bool) (s : Signature) : List (Param Expr) :=
  let positional := List.zipWith withDefault s.positional s.positionalDefaults
  (if static then positional else positional.drop 1) ++
    List.zipWith withDefault s.keywordOnly s.keywordDefaults

theorem zipWith_withDefault (ps : List (Param Expr)) :
    List.zipWith withDefault (ps.map fun p => (p.name, p.hint)) (ps.map (·.default)) = ps := by
  rw [List.zipWith_map, List.zipWith_self]
  exact List.map_id ps

theorem map_default_of_isSome {ps : List (Param Expr)} (h : ∀ p ∈ ps, p.default.isSome) :
    ps.map (·.default) = (ps.filterMap (·.default)).map some := by
  induction ps with
  | nil => rfl
  | cons p ps ih =>
      obtain ⟨hp, hps⟩ := List.forall_mem_cons.mp h
      obtain ⟨default, hdefault⟩ := Option.isSome_iff_exists.mp hp
      rw [List.map_cons, List.filterMap_cons, hdefault, ih hps]
      rfl

/-- Default values that trail belong to the last parameters. -/
theorem map_default_eq {ps : List (Param Expr)} (h : Rules.defaultsTrail ps) :
    ps.map (·.default) =
      List.replicate (ps.length - (ps.filterMap (·.default)).length) none ++
        (ps.filterMap (·.default)).map some := by
  obtain ⟨front, back, rfl, hfront, hback⟩ : ∃ front back, ps = front ++ back ∧
      (∀ p ∈ front, p.default = none) ∧ ∀ p ∈ back, p.default.isSome :=
    ⟨_, _, List.takeWhile_append_dropWhile.symm, fun p hp => by
      simpa using List.mem_takeWhile_imp (p := fun p : Param Expr => p.default.isNone) hp,
      List.all_eq_true.mp h⟩
  have hnone : front.filterMap (·.default) = [] := List.filterMap_eq_nil_iff.mpr hfront
  have hlength : (back.filterMap (·.default)).length = back.length := by
    rw [← List.length_map (f := some), ← map_default_of_isSome hback, List.length_map]
  rw [List.map_append, List.filterMap_append, hnone, List.nil_append, List.length_append, hlength,
    Nat.add_sub_cancel, map_default_of_isSome hback, List.map_eq_replicate_iff.mpr hfront]

theorem arguments_ofParams {ps : Params Expr}
    (h : Rules.defaultsTrail (ps.positionalOnly ++ ps.ordinary)) (static : Bool) :
    (ofParams ps).arguments static = SourceModule.argumentParams static ps := by
  have hdefaults : (ofParams ps).positionalDefaults =
      (ps.positionalOnly ++ ps.ordinary).map (·.default) := by
    rw [map_default_eq h, positionalDefaults, ofParams, List.length_map]
  simp only [arguments, hdefaults]
  simp only [ofParams, zipWith_withDefault]
  rfl

end Signature

end TypedClients
