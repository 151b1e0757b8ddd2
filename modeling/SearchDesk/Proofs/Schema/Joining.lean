import SearchDesk.Proofs.Schema.Findings

/-!
# Detection in a joined sample

A sample that is put together from two parts is detected as the two detections are put
together. `Joined` says how, for the whole samples and for each kind alike:

* counts add up name by name, and so do the numbers that they are divided by;
* the field of a name is the one from the first part if that has the name, else the one from
  the second (`joinFields`). The first part's kind stays, null or not, while a null example
  gives way to the second part's;
* fields are listed by falling count. Among equal counts the names of the first part come
  first, as that part first sees them, and the names that are new in the second part follow.

The groups of the first part come first, and the kinds that are new in the second part follow.
What was found in a sample is thus kept when the sample is extended (`Keeps`).

A field reads the documents of its name only (`fieldOf`), and the documents of a joined sample
are those of the parts in a row, so `fieldOf_append` gives the fields. The places where names
are first seen are those of the part that has them (`firstPlace_append`).
-/

namespace SearchDesk.Schema

/-! ## How fields are joined -/

namespace Field

/-- The field with its share in a sample of another size. -/
def withShare (count size : Nat) (f : Field) : Field :=
  { f with frequency := Binary64.ofRatio false count size, sampleCount := size }

/-- The field after the values of another field: a null example gives way. -/
def followedBy (f g : Field) : Field :=
  let exampleValue := if f.exampleValue.isNull then g.exampleValue else f.exampleValue
  { f with exampleValue := exampleValue, suggestions := suggest f.kind exampleValue }

end Field

/-- The field of a name in a joined sample, from the fields that the parts have for it. -/
def joinFields (count size : Nat) : Option Field → Option Field → Option Field
  | some f, some g => some ((f.followedBy g).withShare count size)
  | some f, none => some (f.withShare count size)
  | none, some g => some (g.withShare count size)
  | none, none => none

/-- A name is seen before another in two lists of documents: the names of the first list as
that list first sees them, then the other names as the second list does. -/
def SeenBefore (docs docs' : List Members) (ofFirst : List String) (a b : String) : Prop :=
  a ∈ ofFirst ∧ b ∈ ofFirst ∧ Earlier (firstPlace docs a) (firstPlace docs b) ∨
    a ∈ ofFirst ∧ b ∉ ofFirst ∨
      a ∉ ofFirst ∧ b ∉ ofFirst ∧ Earlier (firstPlace docs' a) (firstPlace docs' b)

/-- What is found in a whole is what is found in its two parts. -/
structure Joined (docs docs' : List Members) (first second whole : Findings) : Prop where
  size : whole.size = first.size + second.size
  count : ∀ name, whole.count name = first.count name + second.count name
  field? : ∀ name, whole.field? name =
    joinFields (whole.count name) whole.size (first.field? name) (second.field? name)
  distinct : whole.names.Nodup
  ordered : whole.names.Pairwise fun a b => whole.count b < whole.count a ∨
    whole.count a = whole.count b ∧ SeenBefore docs docs' first.names a b

/-- Every field is still found, of the same kind, and with the same example unless it was
null. -/
def Keeps (before after : Findings) : Prop :=
  ∀ name f, before.field? name = some f →
    ∃ g, after.field? name = some g ∧ g.kind = f.kind ∧
      (f.exampleValue.isNull = false → g.exampleValue = f.exampleValue)

/-- The report of a joined sample is put together from the reports of its parts. -/
structure JoinedReport (rules : Rules) (first second : List Json) : Prop where
  overall : Joined (documents first) (documents second)
    (.overall rules first) (.overall rules second) (.overall rules (first ++ second))
  inKind : ∀ kind, Joined (docsOfKind rules kind (documents first))
    (docsOfKind rules kind (documents second))
    (.inKind rules first kind) (.inKind rules second kind) (.inKind rules (first ++ second) kind)
  kinds : Findings.kinds rules (first ++ second) =
    Findings.kinds rules first ++
      (Findings.kinds rules second).filter fun kind => kind ∉ Findings.kinds rules first
  kept : Keeps (.overall rules first) (.overall rules (first ++ second))
  keptInKind : ∀ kind,
    Keeps (.inKind rules first kind) (.inKind rules (first ++ second) kind)

theorem Joined.keeps {docs docs' : List Members} {first second whole : Findings}
    (joined : Joined docs docs' first second whole) : Keeps first whole := by
  intro name f found
  have whole := joined.field? name
  rw [found] at whole
  cases other : second.field? name with
  | none =>
    rw [other] at whole
    exact ⟨_, whole, rfl, fun _ => rfl⟩
  | some g =>
    rw [other] at whole
    refine ⟨_, whole, rfl, fun notNull => ?_⟩
    show (if f.exampleValue.isNull then g.exampleValue else f.exampleValue) = f.exampleValue
    rw [notNull]
    rfl

/-! ## Documents in a row -/

theorem documents_append (first second : List Json) :
    documents (first ++ second) = documents first ++ documents second :=
  List.filterMap_append

theorem ofKind_append (rules : Rules) (kind : String) (first second : List Json) :
    ofKind rules kind (first ++ second) = ofKind rules kind first ++ ofKind rules kind second :=
  List.filter_append _ _

theorem kindsOf_append (rules : Rules) (docs docs' : List Members) :
    kindsOf rules (docs ++ docs') =
      kindsOf rules docs ++ (kindsOf rules docs').filter fun kind => kind ∉ kindsOf rules docs := by
  rw [kindsOf, List.map_append, Order.eraseDups_append]
  simp only [kindsOf, List.mem_eraseDups]

variable {docs docs' : List Members} {name : String}

theorem holders_append (docs docs' : List Members) (name : String) :
    holders (docs ++ docs') name = holders docs name + holders docs' name :=
  List.countP_append

theorem countedHolders_append (rules : Rules) (docs docs' : List Members) (name : String) :
    countedHolders rules (docs ++ docs') name =
      countedHolders rules docs name + countedHolders rules docs' name := by
  unfold countedHolders
  split
  · exact holders_append docs docs' name
  · rfl

theorem valuesOf_append (name : String) (docs docs' : List Members) :
    valuesOf name (docs ++ docs') = valuesOf name docs ++ valuesOf name docs' :=
  List.filterMap_append

theorem valuesOf_eq_nil_iff : valuesOf name docs = [] ↔ ¬∃ doc ∈ docs, doc.has name = true := by
  rw [← List.length_eq_zero_iff, length_valuesOf, holders, List.countP_eq_zero]
  simp

theorem mem_fieldNames_append {rules : Rules} :
    name ∈ fieldNames rules (docs ++ docs') ↔
      name ∈ fieldNames rules docs ∨ name ∈ fieldNames rules docs' := by
  simp only [mem_fieldNames, List.mem_append, or_and_right, exists_or, and_or_left]

/-- A counted name that is not listed has no values. -/
theorem valuesOf_of_not_mem_fieldNames {rules : Rules} (counted : Counted rules name)
    (absent : name ∉ fieldNames rules docs) : valuesOf name docs = [] :=
  valuesOf_eq_nil_iff.mpr fun held => absent (mem_fieldNames.mpr ⟨counted, held⟩)

theorem firstPlace_append_of_has (held : ∃ doc ∈ docs, doc.has name = true) :
    firstPlace (docs ++ docs') name = firstPlace docs name := by
  obtain ⟨doc, here, has⟩ := held
  have inside : docs.findIdx (fun doc => doc.has name) < docs.length :=
    List.findIdx_lt_length_of_exists ⟨doc, here, has⟩
  have found : (docs.find? fun doc => doc.has name).isSome := List.find?_isSome.mpr ⟨doc, here, has⟩
  rw [firstPlace, List.findIdx_append, if_pos inside, List.find?_append,
    Option.or_of_isSome found, firstPlace]

theorem firstPlace_append_of_not_has (absent : ¬∃ doc ∈ docs, doc.has name = true) :
    firstPlace (docs ++ docs') name =
      ((firstPlace docs' name).1 + docs.length, (firstPlace docs' name).2) := by
  have outside : docs.findIdx (fun doc => doc.has name) = docs.length := by
    refine List.findIdx_eq_length_of_false fun doc here => ?_
    rw [← Bool.not_eq_true]
    exact fun has => absent ⟨doc, here, has⟩
  have none : (docs.find? fun doc => doc.has name) = none :=
    List.find?_eq_none.mpr fun doc here has => absent ⟨doc, here, has⟩
  rw [firstPlace, List.findIdx_append, outside, if_neg (Nat.lt_irrefl _), List.find?_append, none,
    Option.none_or]
  rfl

theorem firstPlace_lt_of_has (held : ∃ doc ∈ docs, doc.has name = true) :
    (firstPlace docs name).1 < docs.length :=
  List.findIdx_lt_length_of_exists held

/-! ## Fields and their order -/

/-- A field reads the values of its name; documents without the name only dilute its share. -/
theorem fieldOf_eq_withShare (same : valuesOf name docs = valuesOf name docs') (size n : Nat) :
    fieldOf docs size name = (fieldOf docs' n name).withShare (holders docs name) size := by
  rw [fieldOf, fieldOf, same]
  rfl

/-- The first part gives the kind; the example is the first one of both that is not null. -/
theorem fieldOf_append (held : valuesOf name docs ≠ []) (size n m : Nat) :
    fieldOf (docs ++ docs') size name =
      ((fieldOf docs n name).followedBy (fieldOf docs' m name)).withShare
        (holders (docs ++ docs') name) size := by
  have first : (valuesOf name docs ++ valuesOf name docs').head? = (valuesOf name docs).head? :=
    List.head?_append_of_ne_nil _ held
  rw [fieldOf, valuesOf_append, first, Tally.example_append]
  rfl

/-- The field of a name in documents in a row, from the fields of the parts. -/
theorem joinFields_fieldOf (rules : Rules) (docs docs' : List Members) (name : String)
    (n m : Nat) :
    joinFields (countedHolders rules (docs ++ docs') name) (n + m)
        (if name ∈ fieldNames rules docs then some (fieldOf docs n name) else none)
        (if name ∈ fieldNames rules docs' then some (fieldOf docs' m name) else none) =
      if name ∈ fieldNames rules (docs ++ docs') then
        some (fieldOf (docs ++ docs') (n + m) name)
      else none := by
  by_cases listed : name ∈ fieldNames rules (docs ++ docs')
  · have counted : Counted rules name := (mem_fieldNames.mp listed).1
    have count : countedHolders rules (docs ++ docs') name = holders (docs ++ docs') name :=
      if_pos counted
    rw [if_pos listed, count]
    by_cases inFirst : name ∈ fieldNames rules docs
    · have held : valuesOf name docs ≠ [] :=
        fun none => valuesOf_eq_nil_iff.mp none (mem_fieldNames.mp inFirst).2
      rw [if_pos inFirst]
      by_cases inSecond : name ∈ fieldNames rules docs'
      · rw [if_pos inSecond, fieldOf_append held (n + m) n m]
        rfl
      · have same : valuesOf name (docs ++ docs') = valuesOf name docs := by
          rw [valuesOf_append, valuesOf_of_not_mem_fieldNames counted inSecond, List.append_nil]
        rw [if_neg inSecond, fieldOf_eq_withShare same (n + m) n]
        rfl
    · have inSecond := (mem_fieldNames_append.mp listed).resolve_left inFirst
      have same : valuesOf name (docs ++ docs') = valuesOf name docs' := by
        rw [valuesOf_append, valuesOf_of_not_mem_fieldNames counted inFirst, List.nil_append]
      rw [if_neg inFirst, if_pos inSecond, fieldOf_eq_withShare same (n + m) m]
      rfl
  · have nowhere := mt mem_fieldNames_append.mpr listed
    rw [if_neg listed, if_neg fun here => nowhere (.inl here),
      if_neg fun here => nowhere (.inr here)]
    rfl

/-- What is seen earlier in documents in a row is seen before in the two parts. -/
theorem seenBefore_of_earlier {rules : Rules} {a b : String} (countedA : Counted rules a)
    (countedB : Counted rules b)
    (earlier : Earlier (firstPlace (docs ++ docs') a) (firstPlace (docs ++ docs') b)) :
    SeenBefore docs docs' (fieldNames rules docs) a b := by
  have listed : ∀ {n}, Counted rules n →
      (n ∈ fieldNames rules docs ↔ ∃ doc ∈ docs, doc.has n = true) := fun counted =>
    mem_fieldNames.trans (and_iff_right counted)
  rw [SeenBefore, listed countedA, listed countedB]
  by_cases heldA : ∃ doc ∈ docs, doc.has a = true <;>
    by_cases heldB : ∃ doc ∈ docs, doc.has b = true
  · rw [firstPlace_append_of_has heldA, firstPlace_append_of_has heldB] at earlier
    exact .inl ⟨heldA, heldB, earlier⟩
  · exact .inr (.inl ⟨heldA, heldB⟩)
  · -- `b` is in the first documents and `a` is not, so `b` is seen first
    have inside := firstPlace_lt_of_has heldB
    rw [firstPlace_append_of_not_has heldA, firstPlace_append_of_has heldB] at earlier
    rcases Prod.lex_def.mp earlier with document | ⟨same, -⟩ <;> simp only at * <;> omega
  · rw [firstPlace_append_of_not_has heldA, firstPlace_append_of_not_has heldB] at earlier
    refine .inr (.inr ⟨heldA, heldB, ?_⟩)
    rcases Prod.lex_def.mp earlier with document | ⟨same, place⟩
    · exact Prod.lex_def.mpr (.inl (Nat.lt_of_add_lt_add_right document))
    · exact Prod.lex_def.mpr (.inr ⟨Nat.add_right_cancel same, place⟩)

/-! ## Reports -/

section
variable {rules : Rules} {first second : List Json}

theorem nodup_keys_append (distinct : ∀ doc ∈ documents first, doc.keys.Nodup)
    (distinct' : ∀ doc ∈ documents second, doc.keys.Nodup) :
    ∀ doc ∈ documents (first ++ second), doc.keys.Nodup := by
  intro doc here
  rw [documents_append] at here
  exact (List.mem_append.mp here).elim (distinct doc) (distinct' doc)

theorem joined_overall (distinct : ∀ doc ∈ documents first, doc.keys.Nodup)
    (distinct' : ∀ doc ∈ documents second, doc.keys.Nodup) :
    Joined (documents first) (documents second)
      (.overall rules first) (.overall rules second) (.overall rules (first ++ second)) := by
  have whole := nodup_keys_append distinct distinct'
  constructor
  · simp only [Findings.size_overall, List.length_append]
  · intro name
    rw [Findings.count_overall whole, Findings.count_overall distinct,
      Findings.count_overall distinct', documents_append, countedHolders_append]
  · intro name
    rw [Findings.field?_overall whole, Findings.field?_overall distinct,
      Findings.field?_overall distinct', Findings.count_overall whole, Findings.size_overall,
      documents_append, List.length_append, joinFields_fieldOf]
  · rw [Findings.names_overall whole]
    exact nodup_fieldNames _ _
  · rw [Findings.names_overall whole, Findings.names_overall distinct]
    refine (fieldNames_pairwise rules _).imp_of_mem fun {a b} listedA listedB before => ?_
    rw [Findings.count_overall_of_mem whole listedA, Findings.count_overall_of_mem whole listedB]
    refine before.imp_right fun tie => ⟨tie.1, ?_⟩
    rw [documents_append] at tie
    exact seenBefore_of_earlier (mem_fieldNames.mp listedA).1 (mem_fieldNames.mp listedB).1 tie.2

theorem joined_inKind (distinct : ∀ doc ∈ documents first, doc.keys.Nodup)
    (distinct' : ∀ doc ∈ documents second, doc.keys.Nodup) (kind : String) :
    Joined (docsOfKind rules kind (documents first)) (docsOfKind rules kind (documents second))
      (.inKind rules first kind) (.inKind rules second kind)
      (.inKind rules (first ++ second) kind) := by
  rw [Findings.inKind_eq_overall distinct, Findings.inKind_eq_overall distinct',
    Findings.inKind_eq_overall (nodup_keys_append distinct distinct'), ofKind_append,
    ← documents_ofKind, ← documents_ofKind]
  exact joined_overall (nodup_keys_ofKind distinct) (nodup_keys_ofKind distinct')

theorem kinds_append (rules : Rules) (first second : List Json) :
    Findings.kinds rules (first ++ second) =
      Findings.kinds rules first ++
        (Findings.kinds rules second).filter fun kind => kind ∉ Findings.kinds rules first := by
  simp only [Findings.kinds, map_kindName_detect, documents_append, kindsOf_append]

/-- **Joining.** The report of a joined sample is put together from the reports of its parts,
over the whole and kind by kind, and keeps what was found in the first part. -/
theorem joinedReport_append (distinct : ∀ doc ∈ documents first, doc.keys.Nodup)
    (distinct' : ∀ doc ∈ documents second, doc.keys.Nodup) :
    JoinedReport rules first second where
  overall := joined_overall distinct distinct'
  inKind := joined_inKind distinct distinct'
  kinds := kinds_append rules first second
  kept := (joined_overall distinct distinct').keeps
  keptInKind kind := (joined_inKind distinct distinct' kind).keeps

end

/-- A document with a null, and an entry that is no document. -/
def earlySample : List Json :=
  [.obj [("_type", .str "item"), ("b", .null), ("a", .int 1)], .str "no document"]

/-- A document of a new kind, with a new name, and a value where there was null. -/
def lateSample : List Json := [.obj [("_type", .str "user"), ("c", .int 7), ("b", .bool true)]]

/-- The name `b` keeps the kind of its null and takes the later example, and `a` stays before
the new name `c`. -/
theorem joinedReport_append_lateSample :
    (∀ doc ∈ documents earlySample, doc.keys.Nodup) ∧
      (∀ doc ∈ documents lateSample, doc.keys.Nodup) ∧
      JoinedReport {} earlySample lateSample ∧
      (detect {} (earlySample ++ lateSample)).fields.map
          (fun f => (f.name, f.kind, f.exampleValue)) =
        [("b", .string, .bool true), ("a", .number, .int 1), ("c", .number, .int 7)] ∧
      Findings.kinds {} (earlySample ++ lateSample) = ["item", "user"] := by
  have distinct : ∀ doc ∈ documents earlySample, doc.keys.Nodup := by decide
  have distinct' : ∀ doc ∈ documents lateSample, doc.keys.Nodup := by decide
  have names : fieldNames {} (documents (earlySample ++ lateSample)) = ["b", "a", "c"] := by
    rw [fieldNames, List.mergeSort_of_pairwise (by decide)]
    decide
  refine ⟨distinct, distinct', joinedReport_append distinct distinct', ?_, by decide⟩
  rw [detect_fields_eq_map {} (nodup_keys_append distinct distinct'), names]
  decide

end SearchDesk.Schema
