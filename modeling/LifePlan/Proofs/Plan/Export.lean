import LifePlan.Plan.Edit
import LifePlan.Proofs.Archive
import LifePlan.Proofs.Plan.Walk
import LifePlan.Proofs.Xml
import Mathlib.Data.List.Infix

/-!
# An export loses nothing

The XML document of a plan tells every field and every record, with its place, its date and its description:
no other plan has the same document (`Plan.exported_inj`), and no other plan makes the same file
(`Archive.exportPlan_inj`). A description must say something, since white space alone is taken for indentation,
and a date must not hold the end of a comment, since it is written as one (`Plan.IsExportable`). Everything else
may be any text.

But the document is for other tools only: no plan can be loaded from it (`Archive.load_of_read_exported`).
-/

namespace LifePlan

open Xml (IsClear commentEnd)

/-! ## Records that are told apart -/

/-- Whether a record can be read in a document: its description says something, and its date does not hold the
end of a comment. -/
structure Node.IsExportable (x : Node) : Prop where
  description : Text.isBlankText x.description.toList = false
  date : ¬ commentEnd <:+: x.date.toList

instance (x : Node) : Decidable x.IsExportable :=
  decidable_of_iff (Text.isBlankText x.description.toList = false ∧ ¬ commentEnd <:+: x.date.toList)
    ⟨fun h => ⟨h.1, h.2⟩, fun h => ⟨h.1, h.2⟩⟩

/-- Whether every record of the plan can be read in a document. -/
def Plan.IsExportable (p : Plan) : Prop := ∀ e ∈ p.walk, e.node.IsExportable

instance (p : Plan) : Decidable p.IsExportable :=
  inferInstanceAs (Decidable (∀ e ∈ p.walk, e.node.IsExportable))

/-- The name of a kind is a name. -/
theorem Kind.isName_name (kind : Kind) : Xml.IsName kind.name := by
  cases kind <;> decide

/-- The element of a record is clear, if those of the records that it owns are. -/
theorem isClear_recordXml {kind : Kind} {date description : String} {children : List Xml}
    (hdescription : Text.isBlankText description.toList = false) (hdate : ¬ commentEnd <:+: date.toList)
    (hchildren : ∀ x ∈ children, x.IsClear) : (recordXml kind date description children).IsClear := by
  refine Xml.isClear_element kind.isName_name (fun _ => Xml.isFull_nil) ?_ Xml.isFull_nil
  rintro x (_ | ⟨_, hx⟩)
  · exact ⟨hdate, trivial, fun hblank => Bool.noConfusion (hdescription.symm.trans hblank)⟩
  · exact hchildren x hx

/-- The elements of siblings are clear, if those of records of their kind are. -/
theorem isClear_of_entriesFrom {α : Type} {f : Path → α → List Entry} {toXml : α → Xml}
    (hf : ∀ path x, (∀ e ∈ f path x, e.node.IsExportable) → (toXml x).IsClear) {path : Path} {xs : List α}
    (h : ∀ e ∈ entriesFrom f path 0 xs, e.node.IsExportable) : ∀ x ∈ xs.map toXml, x.IsClear := by
  intro y hy
  obtain ⟨x, hx, rfl⟩ := List.mem_map.mp hy
  obtain ⟨n, hn⟩ := List.mem_iff_getElem?.mp hx
  exact hf _ x fun e he => h e (mem_entriesFrom.mpr ⟨n, x, hn, he⟩)

section clear

variable {path : Path}

/-- The element of an alert is clear. -/
theorem Alert.isClear_toXml (x : Alert) (h : ∀ e ∈ x.entries path, e.node.IsExportable) : x.toXml.IsClear := by
  have hself := h _ List.mem_cons_self
  exact isClear_recordXml hself.description hself.date fun _ hy => absurd hy List.not_mem_nil

/-- The element of a result is clear. -/
theorem Result.isClear_toXml (x : Result) (h : ∀ e ∈ x.entries path, e.node.IsExportable) :
    x.toXml.IsClear := by
  have hself := h _ List.mem_cons_self
  exact isClear_recordXml hself.description hself.date fun _ hy => absurd hy List.not_mem_nil

/-- The element of an agreement is clear. -/
theorem Agreement.isClear_toXml (x : Agreement) (h : ∀ e ∈ x.entries path, e.node.IsExportable) :
    x.toXml.IsClear := by
  have hself := h _ List.mem_cons_self
  exact isClear_recordXml hself.description hself.date
    (isClear_of_entriesFrom (fun _ => Alert.isClear_toXml) fun e he => h e (List.mem_cons_of_mem _ he))

/-- The element of an action is clear. -/
theorem Action.isClear_toXml (x : Action) (h : ∀ e ∈ x.entries path, e.node.IsExportable) :
    x.toXml.IsClear := by
  have hself := h _ List.mem_cons_self
  exact isClear_recordXml hself.description hself.date
    (isClear_of_entriesFrom (fun _ => Agreement.isClear_toXml) fun e he => h e (List.mem_cons_of_mem _ he))

/-- The element of a goal is clear. -/
theorem Goal.isClear_toXml (x : Goal) (h : ∀ e ∈ x.entries path, e.node.IsExportable) : x.toXml.IsClear := by
  have hself := h _ List.mem_cons_self
  have hactions : ∀ e ∈ entriesFrom Action.entries path 0 x.actions, e.node.IsExportable :=
    fun e he => h e (List.mem_cons_of_mem _ (List.mem_append_left _ he))
  have hresults : ∀ e ∈ entriesFrom Result.entries path 0 x.results, e.node.IsExportable :=
    fun e he => h e (List.mem_cons_of_mem _ (List.mem_append_right _ he))
  refine isClear_recordXml hself.description hself.date fun y hy => ?_
  rcases List.mem_append.mp hy with hy | hy
  · exact isClear_of_entriesFrom (fun _ => Result.isClear_toXml) hresults y hy
  · exact isClear_of_entriesFrom (fun _ => Action.isClear_toXml) hactions y hy

end clear

/-- The name of a field is a name. -/
theorem Field.isName_name (f : Field) : Xml.IsName f.name := by
  cases f <;> decide

/-- The element of a field is clear, whatever its text is: it has no children. -/
theorem Plan.isClear_fieldXml (p : Plan) (f : Field) : (p.fieldXml f).IsClear :=
  Xml.isClear_element f.isName_name (fun h => absurd rfl h) (fun _ hx => absurd hx List.not_mem_nil) Xml.isFull_nil

/-- The root element of a plan is clear. -/
theorem Plan.isClear_toXml {p : Plan} (h : p.IsExportable) : p.toXml.IsClear := by
  refine Xml.isClear_element (by decide) (fun _ => Xml.isFull_nil) (fun x hx => ?_)
    Xml.isFull_nil
  rcases List.mem_append.mp hx with hx | hx
  · obtain ⟨f, -, rfl⟩ := List.mem_map.mp hx
    exact p.isClear_fieldXml f
  · exact isClear_of_entriesFrom (fun _ => Goal.isClear_toXml) h x hx

/-! ## Plans that are told apart -/

/-- A record's element tells its date, its description and the elements in it. -/
theorem recordXml_inj {kind kind' : Kind} {date date' description description' : String}
    {children children' : List Xml}
    (h : recordXml kind date description children = recordXml kind' date' description' children') :
    kind = kind' ∧ date = date' ∧ description = description' ∧ children = children' := by
  simp only [recordXml, Xml.element.injEq, List.cons.injEq, Xml.comment.injEq, String.toList_inj] at h
  obtain ⟨hname, -, ⟨⟨hdate, hdescription⟩, hchildren⟩, -⟩ := h
  refine ⟨?_, hdate, hdescription, hchildren⟩
  revert hname
  cases kind <;> cases kind' <;> decide

/-- Two kinds of siblings, one behind the other, are told apart by their elements. -/
theorem append_map_inj {α β : Type} {f : α → Xml} {g : β → Xml} (hf : ∀ x y, f x = f y → x = y)
    (hg : ∀ x y, g x = g y → x = y) (hne : ∀ x y, f x ≠ g y) {xs xs' : List α} {ys ys' : List β}
    (h : xs.map f ++ ys.map g = xs'.map f ++ ys'.map g) : xs = xs' ∧ ys = ys' := by
  induction xs generalizing xs' with
  | nil =>
    rcases xs' with _ | ⟨x', xs'⟩
    · exact ⟨rfl, (List.map_inj_right hg).mp h⟩
    · rcases ys with _ | ⟨y, ys⟩
      · cases h
      · exact absurd (List.cons.inj h).1.symm (hne x' y)
  | cons x xs ih =>
    rcases xs' with _ | ⟨x', xs'⟩
    · rcases ys' with _ | ⟨y', ys'⟩
      · cases h
      · exact absurd (List.cons.inj h).1 (hne x y')
    · obtain ⟨hx, hrest⟩ := List.cons.inj h
      obtain ⟨rfl, rfl⟩ := ih hrest
      rw [hf x x' hx]
      exact ⟨rfl, rfl⟩

/-- The element of an alert tells it. -/
theorem Alert.toXml_inj {x y : Alert} (h : x.toXml = y.toXml) : x = y := by
  obtain ⟨-, hdate, hdescription, -⟩ := recordXml_inj h
  exact Alert.ext hdate hdescription

/-- The element of a result tells it. -/
theorem Result.toXml_inj {x y : Result} (h : x.toXml = y.toXml) : x = y := by
  obtain ⟨-, hdate, hdescription, -⟩ := recordXml_inj h
  exact Result.ext hdate hdescription

/-- The element of an agreement tells it, with its alerts. -/
theorem Agreement.toXml_inj {x y : Agreement} (h : x.toXml = y.toXml) : x = y := by
  obtain ⟨-, hdate, hdescription, hchildren⟩ := recordXml_inj h
  exact Agreement.ext hdate hdescription ((List.map_inj_right fun _ _ => Alert.toXml_inj).mp hchildren)

/-- The element of an action tells it, with its agreements. -/
theorem Action.toXml_inj {x y : Action} (h : x.toXml = y.toXml) : x = y := by
  obtain ⟨-, hdate, hdescription, hchildren⟩ := recordXml_inj h
  exact Action.ext hdate hdescription ((List.map_inj_right fun _ _ => Agreement.toXml_inj).mp hchildren)

/-- The element of a goal tells it, with its results and its actions. -/
theorem Goal.toXml_inj {x y : Goal} (h : x.toXml = y.toXml) : x = y := by
  obtain ⟨-, hdate, hdescription, hchildren⟩ := recordXml_inj h
  have hne (r : Result) (a : Action) : r.toXml ≠ a.toXml := fun heq => by cases (recordXml_inj heq).1
  obtain ⟨hresults, hactions⟩ :=
    append_map_inj (fun _ _ => Result.toXml_inj) (fun _ _ => Action.toXml_inj) hne hchildren
  exact Goal.ext hdate hdescription hactions hresults

/-- Every field is in a document. -/
theorem Field.mem_all (f : Field) : f ∈ all := by cases f <;> decide

namespace Plan

/-- The element of a field tells its text. -/
theorem fieldXml_inj {p q : Plan} {f : Field} (h : p.fieldXml f = q.fieldXml f) : p.get f = q.get f :=
  String.toList_inj.mp (Xml.element.inj h).2.1

/-- The element of a plan tells it. -/
theorem toXml_inj {p q : Plan} (h : p.toXml = q.toXml) : p = q := by
  have hlength : (Field.all.map p.fieldXml).length = (Field.all.map q.fieldXml).length := by
    rw [List.length_map, List.length_map]
  obtain ⟨hfields, hgoals⟩ := List.append_inj (Xml.element.inj h).2.2.1 hlength
  have hfields := List.map_inj_left.mp hfields
  exact eq_of_get (fun f => fieldXml_inj (hfields f f.mem_all))
    ((List.map_inj_right fun _ _ => Goal.toXml_inj).mp hgoals)

/-- **The document of a plan tells it**, every field and every record. -/
theorem exported_inj {p q : Plan} (hp : p.IsExportable) (hq : q.IsExportable) (h : p.exported = q.exported) :
    p = q :=
  toXml_inj (Xml.document_inj (isClear_toXml hp) (isClear_toXml hq) h)

-- neither condition can be left out: two descriptions of white space are written as the same line break, and a
-- date with the end of a comment in it can take the place of a whole goal
example : exported { blank "" "" with goals := [⟨"", " ", [], []⟩] } =
    exported { blank "" "" with goals := [⟨"", "", [], []⟩] } := by decide +kernel
example : exported { blank "" "" with goals := [⟨"1", "x", [], []⟩, ⟨"2", "y", [], []⟩] } =
    exported { blank "" "" with
      goals := [⟨"1-->x</goal>\n  <goal>\n    <!--2", "y", [], []⟩] } := by decide +kernel

end Plan

/-! ## No data file -/

namespace Json

end Json

namespace Archive

/-- Texts are told apart by their bytes. -/
theorem encode_inj {cs ds : List Char} (h : encode cs = encode ds) : cs = ds :=
  String.ofList_injective (String.toByteArray_inj.mp h)

/-- The file of an export holds the document of the plan. -/
theorem read_exportPlan {s t : Store} {file : FileName} {p : Plan} (h : exportPlan s file p = .ok t) :
    t.read file = .ok (encode p.exported) :=
  (Store.read_write_self (write_eq_ok.mp h)).1

/-- **An export loses nothing**: if two plans, each with descriptions that say something and dates that do not hold
the end of a comment, were exported to files and these have the same bytes, then the plans are the same, in every
field, and in every record's place, date and description. -/
theorem exportPlan_inj {s s' t t' : Store} {file file' : FileName} {p q : Plan} (hp : p.IsExportable)
    (hq : q.IsExportable) (hexport : exportPlan s file p = .ok t) (hexport' : exportPlan s' file' q = .ok t')
    (h : t.read file = t'.read file') : p = q := by
  rw [read_exportPlan hexport, read_exportPlan hexport'] at h
  exact Plan.exported_inj hp hq (encode_inj (Except.ok.inj h))

/-- A plan whose texts are hard to tell from the marks and the lines around them. -/
def markedPlan : Plan :=
  { Plan.blank "<!--" "-->" with
    address := "  \n"
    about := "<about />"
    goals := [⟨"--", " a & b\n", [⟨"<", "&amp;", [⟨">", "-->", [⟨"", "\n\n."⟩]⟩]⟩], [⟨"&", "</result>"⟩]⟩] }

/-- The marked plan, and what becomes of it when its goal is described with the same text. -/
theorem exportPlan_inj_markedPlan :
    markedPlan.IsExportable ∧ markedPlan.describe .goal [0] " a & b\n" = markedPlan := by
  have hmarked : markedPlan.IsExportable := by decide
  have hdescribed : (markedPlan.describe .goal [0] " a & b\n").IsExportable := by decide
  have hexport : exportPlan .empty ⟨0, ["plan.xml"]⟩ markedPlan =
      .ok (Store.empty.put ["plan.xml"] (.file (encode markedPlan.exported))) := rfl
  have hexport' : exportPlan .empty ⟨0, ["other.xml"]⟩ (markedPlan.describe .goal [0] " a & b\n") =
      .ok (Store.empty.put ["other.xml"] (.file (encode markedPlan.exported))) := rfl
  exact ⟨hmarked, exportPlan_inj hdescribed hmarked hexport' hexport rfl⟩

end Archive

end LifePlan
