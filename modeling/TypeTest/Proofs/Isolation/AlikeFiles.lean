import TypeTest.Discovery.Walk
import TypeTest.Proofs.Isolation.AlikeTrees
import TypeTest.Script.File

/-!
# Files that are alike

The search for tests sees a file through the shapes and the children of its nodes. Files
are **alike** under a relation between their nodes (`SourceFile.Alike`) if nodes that are
related have shapes of the same kind, with the same texts and with nodes that are related.
Then all that is read off a file is the same for nodes that are related: what is introduced,
what its description is, which calls are its assertions and what they are called on.

Scripts are alike, whichever two, under the relation of being alike up to the places in the
text: what a script shows of a node is in the node alone.
-/

namespace TypeTest

variable {ν μ : Type} {R : ν → μ → Prop}

/-- **Shapes that are alike**: of the same kind, with the same texts, and with nodes that
compare by `R`. -/
inductive Shape.Like (R : ν → μ → Prop) : Shape ν → Shape μ → Prop where
  | call {n : ν} {m : μ} {ns ns' : List ν} {ms ms' : List μ} : R n m → List.Forall₂ R ns ms →
    List.Forall₂ R ns' ms' → Like R (.call n ns ns') (.call m ms ms')
  | identifier {own : String} : Like R (.identifier own) (.identifier own)
  | stringLiteral {value : String} : Like R (.stringLiteral value) (.stringLiteral value)
  | propertyAccess {n : ν} {m : μ} {own : String} : R n m →
    Like R (.propertyAccess n own) (.propertyAccess m own)
  | functionLike {o : Option ν} {p : Option μ} : Option.Rel R o p →
    Like R (.functionLike o) (.functionLike p)
  | arrayLiteral {ns : List ν} {ms : List μ} : List.Forall₂ R ns ms →
    Like R (.arrayLiteral ns) (.arrayLiteral ms)
  | objectLiteral {ns : List ν} {ms : List μ} : List.Forall₂ R ns ms →
    Like R (.objectLiteral ns) (.objectLiteral ms)
  | propertyAssignment {own : String} {n : ν} {m : μ} : R n m →
    Like R (.propertyAssignment own n) (.propertyAssignment own m)
  | other : Like R .other .other

namespace Shape

variable {s : Shape ν} {s' : Shape μ}

theorem Like.isCall_eq (h : Like R s s') : s.isCall = s'.isCall := by
  cases h <;> rfl

theorem Like.isFunctionLike_eq (h : Like R s s') : s.isFunctionLike = s'.isFunctionLike := by
  cases h <;> rfl

/-- Shapes stay alike under functions that keep nodes related. -/
theorem Like.map {ν' μ' : Type} {R' : ν' → μ' → Prop} {f : ν → ν'} {g : μ → μ'}
    (h : Like R s s') (hfg : ∀ n m, R n m → R' (f n) (g m)) : Like R' (s.map f) (s'.map g) := by
  have hlist : ∀ {ns ms}, List.Forall₂ R ns ms → List.Forall₂ R' (ns.map f) (ms.map g) :=
    fun hns => List.rel_map (fun _ _ hnm => hfg _ _ hnm) hns
  cases h with
  | call hc ht ha => exact .call (hfg _ _ hc) (hlist ht) (hlist ha)
  | identifier => exact .identifier
  | stringLiteral => exact .stringLiteral
  | propertyAccess hn => exact .propertyAccess (hfg _ _ hn)
  | functionLike ho =>
    cases ho with
    | none => exact .functionLike .none
    | some hb => exact .functionLike (.some (hfg _ _ hb))
  | arrayLiteral hns => exact .arrayLiteral (hlist hns)
  | objectLiteral hns => exact .objectLiteral (hlist hns)
  | propertyAssignment hn => exact .propertyAssignment (hfg _ _ hn)
  | other => exact .other

end Shape

/-- **Sites that are alike**: both of a group or both of a test. -/
inductive Site.Like (R : ν → μ → Prop) : Site ν → Site μ → Prop where
  | group {d c : ν} {d' c' : μ} : R d d' → R c c' → Like R (.group d c) (.group d' c')
  | test {d c : ν} {d' c' : μ} : R d d' → R c c' → Like R (.test d c) (.test d' c')

/-- **Files that are alike** under a relation between their nodes. -/
structure SourceFile.Alike (R : ν → μ → Prop) (file : SourceFile ν) (file' : SourceFile μ) :
    Prop where
  children : ∀ {n m}, R n m → List.Forall₂ R (file.children n) (file'.children m)
  shape : ∀ {n m}, R n m → (file.shape n).Like R (file'.shape m)

namespace SourceFile.Alike

variable {file : SourceFile ν} {file' : SourceFile μ} (h : file.Alike R file') {n : ν} {m : μ}

include h

theorem forall₂_descendants (hnm : R n m) :
    List.Forall₂ R (file.descendants n) (file'.descendants m) := by
  induction n using file.wellFounded.induction generalizing m with
  | _ n ih =>
    have hc : List.Forall₂
        (fun c c' => (∀ m, R c m → List.Forall₂ R (file.descendants c) (file'.descendants m))
          ∧ R c c') (file.children n) (file'.children m) :=
      (List.forall₂_and_left _ _).mpr ⟨fun c hc _ hcm => ih c (.child hc) hcm, h.children hnm⟩
    rw [descendants_eq, descendants_eq]
    exact .cons hnm (List.rel_flatMap hc fun c c' hcc => hcc.1 c' hcc.2)

theorem forall₂_calls {ns : List ν} {ms : List μ} (hns : List.Forall₂ R ns ms) :
    List.Forall₂ R (ns.filter fun n => (file.shape n).isCall)
      (ms.filter fun m => (file'.shape m).isCall) := by
  refine List.rel_filter (fun n m hnm => ?_) hns
  show (file.shape n).isCall = true ↔ (file'.shape m).isCall = true
  rw [(h.shape hnm).isCall_eq]

theorem describe_eq (hnm : R n m) : file.describe n = file'.describe m := by
  have hs := h.shape hnm
  unfold describe
  generalize file.shape n = s at hs
  generalize file'.shape m = s' at hs
  cases hs <;> rfl

theorem rel_site? (hnm : R n m) : Option.Rel (Site.Like R) (file.site? n) (file'.site? m) := by
  have hs := h.shape hnm
  unfold site?
  generalize file.shape n = s at hs
  generalize file'.shape m = s' at hs
  cases hs with
  | @call n m ns ns' ms ms' hc _ ha =>
    cases ha with
    | nil => exact .none
    | cons hd ha =>
      cases ha with
      | nil => exact .none
      | @cons callback callback' _ _ hcb _ =>
        have hname := h.shape hc
        have hfunction := (h.shape hcb).isFunctionLike_eq
        dsimp only
        generalize file.shape n = s at hname
        generalize file'.shape m = s' at hname
        cases hname with
        | identifier =>
          dsimp only
          rw [hfunction]
          split
          · exact .some (.group hd hcb)
          · split
            · exact .some (.test hd hcb)
            · exact .none
        | _ => exact .none
  | _ => exact .none

theorem rel_receiver? (hnm : R n m) : Option.Rel R (file.receiver? n) (file'.receiver? m) := by
  have hs := h.shape hnm
  unfold receiver?
  generalize file.shape n = s at hs
  generalize file'.shape m = s' at hs
  cases hs with
  | @call n m _ _ _ _ hc _ _ =>
    have ho := h.shape hc
    dsimp only
    generalize file.shape n = s at ho
    generalize file'.shape m = s' at ho
    cases ho with
    | propertyAccess hn => exact .some hn
    | _ => exact .none
  | _ => exact .none

theorem forall₂_assertions (hnm : R n m) :
    List.Forall₂ R (file.assertions n) (file'.assertions m) := by
  have hs := h.shape hnm
  unfold assertions
  generalize file.shape n = s at hs
  generalize file'.shape m = s' at hs
  cases hs with
  | functionLike ho =>
    cases ho with
    | none => exact .nil
    | @some a b hb =>
      show List.Forall₂ R (file.callsWithin a) (file'.callsWithin b)
      rw [callsWithin_eq, callsWithin_eq]
      exact h.forall₂_calls (h.forall₂_descendants hb)
  | arrayLiteral hns => exact h.forall₂_calls hns
  | objectLiteral hns =>
    refine List.rel_filterMap (fun a b hab => ?_) hns
    have ha := h.shape hab
    generalize file.shape a = s at ha
    generalize file'.shape b = s' at ha
    cases ha with
    | propertyAssignment hi =>
      dsimp only
      rw [(h.shape hi).isCall_eq]
      split
      · exact .some hi
      · exact .none
    | _ => exact .none
  | _ => exact .nil

end SourceFile.Alike

/-! ## Scripts -/

/-- The shapes of forms that are alike are alike. -/
theorem Form.Like.shape {α β : Type} {N : α → β → Prop} {form : Form α} {form' : Form β}
    (h : Form.Like N Eq form form') : form.shape.Like N form'.shape := by
  cases h with
  | call hc ht ha => exact .call hc ht ha
  | identifier => exact .identifier
  | stringLiteral => exact .stringLiteral
  | propertyAccess hn => exact .propertyAccess hn
  | function _ _ hb => exact .functionLike (.some hb)
  | functionDeclaration _ _ hb => exact .functionLike hb
  | arrayLiteral hns => exact .arrayLiteral hns
  | objectLiteral hns => exact .objectLiteral hns
  | propertyAssignment hn => exact .propertyAssignment hn
  | _ => exact .other

/-- **Nodes of scripts that are alike**: in files of the same number, and alike up to the
places in the text. -/
def NodeRef.Alike (a b : NodeRef) : Prop := a.file = b.file ∧ a.node.Alike b.node

/-- **Scripts of the same number are alike** as to the nodes that are. -/
theorem ScriptFile.alike_toSource (file file' : ScriptFile) (i : Nat) :
    (file.toSource i).Alike NodeRef.Alike (file'.toSource i) := by
  refine ⟨fun {a b} hab => ?_, fun {a b} hab => ?_⟩
  · show List.Forall₂ NodeRef.Alike (childrenIn i a) (childrenIn i b)
    unfold childrenIn
    rw [hab.1]
    split
    · exact List.rel_map (fun _ _ hnm => ⟨rfl, hnm⟩) (Node.alike_iff.mp hab.2).2
    · exact .nil
  · show (shapeIn i a).Like NodeRef.Alike (shapeIn i b)
    unfold shapeIn
    rw [hab.1]
    split
    · exact hab.2.form.shape.map fun _ _ hnm => ⟨rfl, hnm⟩
    · exact .other

end TypeTest
