import HomeGateway.Json.Form
import HomeGateway.Proofs.Json.Text

/-!
Forms that lose nothing: what is written in them is read as what it was, from the document and
from its text. Each shape that forms are made of has its law, so that a type needs to say no more
than which shape it has.
-/

namespace HomeGateway

/-- Every value is listed, and no two have the same tag. -/
class LawfulEnumeration (α : Type) [Enumeration α] : Prop where
  listed : ∀ a : α, a ∈ (Enumeration.all : List α)
  distinct : ((Enumeration.all : List α).map Enumeration.tag).Nodup

namespace Enumeration

variable {α : Type} [Enumeration α]

theorem find?_tag {values : List α} (hdistinct : (values.map tag).Nodup) {a : α}
    (ha : a ∈ values) : (values.find? fun b => tag b == tag a) = some a := by
  induction values with
  | nil => cases ha
  | cons b rest ih =>
    simp only [List.map_cons, List.nodup_cons] at hdistinct
    rcases List.mem_cons.mp ha with rfl | hrest
    · simp
    · have hne : (tag b == tag a) = false := by
        rw [beq_eq_false_iff_ne]
        exact fun heq => hdistinct.1 (heq ▸ List.mem_map_of_mem hrest)
      rw [List.find?_cons, hne]
      exact ih hdistinct.2 hrest

theorem ofTag?_tag [LawfulEnumeration α] (a : α) : ofTag? (tag a) = some a :=
  find?_tag LawfulEnumeration.distinct (LawfulEnumeration.listed a)

end Enumeration

open Json JsonForm

/-- What is written is a document at most `depth` deep, and is read as what it was. -/
class LawfulForm (α : Type) [JsonForm α] (depth : outParam Nat) : Prop where
  read?_write : ∀ a : α, read? (write a) = some a
  written : ∀ a : α, Written depth (write a)

/-- Nothing gets lost on the way through a document, nor on the way through its text. -/
def Lossless (α : Type) [JsonForm α] : Prop :=
  ∀ a : α, read? (write a) = some a ∧ parse? (write a).render = some (write a)

namespace LawfulForm

variable {α : Type} [JsonForm α] {depth : Nat} [LawfulForm α depth]

theorem written_le (a : α) {deeper : Nat} (h : depth ≤ deeper) : Written deeper (write a) :=
  (written a).mono h

theorem lossless (h : depth ≤ Machine.readableDepth) : Lossless α :=
  fun a => ⟨read?_write a, parse?_render (written_le a h)⟩

end LawfulForm

namespace JsonForm

/-! Words and texts -/

theorem word?_ofInt (low high n : Int) (hlow : low ≤ n) (hhigh : n ≤ high) :
    word? low high (ofInt n) = some n := by
  simp [word?, Json.toInt?, ofInt, Number.toInt?_ofInt, hlow, hhigh]

theorem toString?_ofString (s : String) : (ofString s).toString? = some s := by
  simp [Json.toString?, ofString, unescape?_escape]

instance : LawfulForm Bool 0 where
  read?_write _ := rfl
  written b := .bool b

instance : LawfulForm String 0 where
  read?_write := toString?_ofString
  written s := .text s

instance : LawfulForm UInt8 0 where
  read?_write n := by
    have hlt := n.toNat_lt
    change read? (ofInt n.toNat) = some n
    simp [read?, word?_ofInt 0 0xFF n.toNat (by omega) (by omega)]
  written n := .int n.toNat

instance : LawfulForm UInt16 0 where
  read?_write n := by
    have hlt := n.toNat_lt
    change read? (ofInt n.toNat) = some n
    simp [read?, word?_ofInt 0 0xFFFF n.toNat (by omega) (by omega)]
  written n := .int n.toNat

instance : LawfulForm UInt32 0 where
  read?_write n := by
    have hlt := n.toNat_lt
    change read? (ofInt n.toNat) = some n
    simp [read?, word?_ofInt 0 0xFFFFFFFF n.toNat (by omega) (by omega)]
  written n := .int n.toNat

instance : LawfulForm UInt64 0 where
  read?_write n := by
    have hlt := n.toNat_lt
    change read? (ofInt n.toNat) = some n
    simp [read?, word?_ofInt 0 0xFFFFFFFFFFFFFFFF n.toNat (by omega)
      (by omega)]
  written n := .int n.toNat

instance : LawfulForm Int8 0 where
  read?_write n := by
    have hlow := n.le_toInt
    have hhigh := n.toInt_lt
    change read? (ofInt n.toInt) = some n
    simp [read?, word?_ofInt (-128) 127 n.toInt (by omega) (by omega)]
  written n := .int n.toInt

instance : LawfulForm Int16 0 where
  read?_write n := by
    have hlow := n.le_toInt
    have hhigh := n.toInt_lt
    change read? (ofInt n.toInt) = some n
    simp [read?, word?_ofInt (-32768) 32767 n.toInt (by omega) (by omega)]
  written n := .int n.toInt

/-! Lists and enumerations -/

/-- Reading what was written, one by one. -/
theorem mapM_map_eq_some {α β γ : Type} {values : List α} (write : α → β) (read? : β → Option γ)
    (result : α → γ) (h : ∀ a ∈ values, read? (write a) = some (result a)) :
    (values.map write).mapM read? = some (values.map result) := by
  induction values with
  | nil => rfl
  | cons a rest ih =>
    have hrest := ih fun b hb => h b (List.mem_cons_of_mem _ hb)
    simp [h a List.mem_cons_self, hrest]

instance {α : Type} [JsonForm α] {depth : Nat} [LawfulForm α depth] :
    LawfulForm (List α) (depth + 1) where
  read?_write xs := by
    have hread := mapM_map_eq_some write read? id
      fun x (_ : x ∈ xs) => LawfulForm.read?_write x
    rwa [List.map_id] at hread
  written xs := .list fun item hitem => by
    obtain ⟨x, -, rfl⟩ := List.mem_map.mp hitem
    exact LawfulForm.written x

theorem variantName?_ofString (s : String) : variantName? (ofString s) = some s :=
  toString?_ofString s

theorem ofEnumeration_lawful {α : Type} [Enumeration α] [LawfulEnumeration α] :
    @LawfulForm α ofEnumeration 0 :=
  @LawfulForm.mk α ofEnumeration 0
    (fun a => by
      change (variantName? (ofString (Enumeration.tag a))).bind Enumeration.ofTag? = some a
      rw [variantName?_ofString]
      exact Enumeration.ofTag?_tag a)
    (fun a => .text (Enumeration.tag a))

/-! Records -/

theorem members?_ofFields (fields : List (String × Json)) :
    (ofFields fields).members? = some fields := by
  have hread := mapM_map_eq_some memberOf
    (fun member => (unescape? member.1).map fun cs => (String.ofList cs, member.2)) id
    fun field (_ : field ∈ fields) => by simp [memberOf, unescape?_escape]
  rwa [List.map_id] at hread

theorem filter_key {fields : List (String × Json)} (hdistinct : (fields.map Prod.fst).Nodup)
    {field : String × Json} (hfield : field ∈ fields) :
    (fields.filter fun member => member.1 == field.1) = [field] := by
  induction fields with
  | nil => cases hfield
  | cons first rest ih =>
    simp only [List.map_cons, List.nodup_cons, List.mem_map] at hdistinct
    rcases List.mem_cons.mp hfield with rfl | hrest
    · have hothers : rest.filter (fun member => member.1 == field.1) = [] := by
        refine List.filter_eq_nil_iff.mpr fun other hother hsame => ?_
        exact hdistinct.1 ⟨other, hother, by simpa using hsame⟩
      simp [hothers]
    · have hne : first.1 ≠ field.1 := fun hsame => hdistinct.1 ⟨field, hrest, hsame.symm⟩
      simp [hne, ih hdistinct.2 hrest]

/-- The fields of a record are found under their names if no two have the same. -/
theorem fields?_ofFields {fields : List (String × Json)} {names : List String}
    (hnames : fields.map Prod.fst = names) (hdistinct : names.Nodup) :
    fields? names (ofFields fields) = some (fields.map fun field => some field.2) := by
  subst hnames
  change (do let members ← (ofFields fields).members?; _) = _
  rw [members?_ofFields]
  refine mapM_map_eq_some _ _ _ fun field hfield => ?_
  rw [filter_key hdistinct hfield]

theorem required?_write {α : Type} [JsonForm α] {depth : Nat} [LawfulForm α depth] (a : α) :
    required? (some (write a)) = some a :=
  LawfulForm.read?_write a

theorem optional?_write {α : Type} [JsonForm α] {depth : Nat} [LawfulForm α depth]
    (fallback a : α) : optional? fallback (some (write a)) = some a :=
  LawfulForm.read?_write a

/-! Tagged variants -/

/-- The tag is written before the content. -/
theorem tagged?_ofFields (tag content : String) (variant value : Json) :
    tagged? tag content (ofFields [(tag, variant), (content, value)]) =
      some (variant, some value) := by
  change (do let members ← (ofFields _).members?; _) = _
  rw [members?_ofFields]
  simp

/-- A variant without content. -/
theorem tagged?_singleton (tag content : String) (variant : Json) :
    tagged? tag content (ofFields [(tag, variant)]) = some (variant, none) := by
  change (do let members ← (ofFields _).members?; _) = _
  rw [members?_ofFields]
  simp

end JsonForm

end HomeGateway
