import Audience.Catalog.Codec
import Audience.Proofs.Json.RoundTrip
import Audience.Proofs.Keyed
import Audience.Proofs.Text.Blank

/-!
**Which lists of fields form a catalog**, and how fields are looked up in it.

The fields of a list are checked one by one, each with the names of those before it.  A list forms a
catalog just when every field has a name, no name comes twice, and exactly the fields to select from
have options; of any other list the first field that breaks one of these rules is reported.  Since
the names are different, a field is known by its name wherever it stands in the list.

Main definitions:

* `AreFields` — **nothing is wrong** with a list of fields;
* `Field.Breaks` — what is wrong with a field that comes after others;
* `Catalog.LooksUpLike` — two catalogs in which fields are looked up alike.

Main results:

* `Catalog.problem?_eq_none_iff`, `Catalog.problem?_eq_some_iff` — when nothing is wrong with a list
  of fields, and what is wrong first;
* `Field.ofJson_toJson`, `Catalog.ofJson_toJson` — fields and catalogs are read again from JSON;
* `catalogs_are_valid_fields` — **catalogs are the valid lists of fields**, come back from JSON, and
  have one field to a name.
-/

set_option relaxedAutoImplicit false
set_option autoImplicit false

namespace Audience

/-! ### What can be wrong -/

/-- **Nothing is wrong** with a list of fields. -/
structure AreFields (fields : List Field) : Prop where
  /-- Something is left of each name when it is trimmed. -/
  named : ∀ field ∈ fields, (Text.trim field.name).isEmpty = false
  /-- The names are pairwise different. -/
  distinct : (fields.map Field.name).Nodup
  /-- Just the fields to select from have options. -/
  options : ∀ field ∈ fields, field.options ≠ [] ↔ field.type = .select

/-- What is wrong with a field that comes after fields with the names `earlier`: its name before
anything else. -/
inductive Field.Breaks (earlier : List String) (field : Field) : CatalogError → Prop
  | blankName (hblank : (Text.trim field.name).isEmpty = true) : Breaks earlier field .blankName
  | duplicate (hnamed : (Text.trim field.name).isEmpty = false) (hseen : field.name ∈ earlier) :
      Breaks earlier field (.duplicate field.name)
  | noOptions (hnamed : (Text.trim field.name).isEmpty = false) (hnew : field.name ∉ earlier)
      (hselect : field.type = .select) (hnone : field.options = []) :
      Breaks earlier field (.noOptions field.name)
  | strayOptions (hnamed : (Text.trim field.name).isEmpty = false) (hnew : field.name ∉ earlier)
      (hother : field.type ≠ .select) (hsome : field.options ≠ []) :
      Breaks earlier field (.strayOptions field.name)

namespace Field

variable {field : Field} {earlier : List String} {error : CatalogError}

theorem problem?_reverse (earlier : List String) :
    field.problem? earlier.reverse = field.problem? earlier := by
  simp only [problem?, List.mem_reverse]

/-- Nothing is wrong with a field that has a new name, and options just if there is something
to select from. -/
theorem problem?_eq_none_iff :
    field.problem? earlier = none ↔
      ((Text.trim field.name).isEmpty = false ∧ (field.options ≠ [] ↔ field.type = .select)) ∧
        field.name ∉ earlier := by
  obtain ⟨name, label, type, options⟩ := field
  rw [problem?, Text.isEmpty_trim]
  cases Text.isBlankText name with
  | true => simp
  | false =>
      by_cases hseen : name ∈ earlier
      · simp [hseen]
      · cases type <;> cases options <;> simp [hseen]

/-- What is found to be wrong with a field is wrong with it. -/
theorem problem?_eq_some_iff :
    field.problem? earlier = some error ↔ field.Breaks earlier error := by
  constructor
  · intro h
    rw [problem?, ← Text.isEmpty_trim] at h
    split at h
    · next hblank =>
      obtain rfl := Option.some.inj h
      exact .blankName hblank
    · next hnamed =>
      rw [Bool.not_eq_true] at hnamed
      split at h
      · next hseen =>
        obtain rfl := Option.some.inj h
        exact .duplicate hnamed hseen
      · next hnew =>
        split at h
        · next hselect hnone =>
          obtain rfl := Option.some.inj h
          exact .noOptions hnamed hnew hselect hnone
        · cases h
        · cases h
        · next option options hsome hother =>
          obtain rfl := Option.some.inj h
          exact .strayOptions hnamed hnew hother (by simp [hsome])
  · intro h
    rw [problem?, ← Text.isEmpty_trim]
    cases h with
    | blankName hblank => rw [if_pos hblank]
    | duplicate hnamed hseen => rw [if_neg (Bool.eq_false_iff.1 hnamed), if_pos hseen]
    | noOptions hnamed hnew hselect hnone =>
        rw [if_neg (Bool.eq_false_iff.1 hnamed), if_neg hnew]
        simp only [hselect, hnone]
    | strayOptions hnamed hnew hother hsome =>
        rw [if_neg (Bool.eq_false_iff.1 hnamed), if_neg hnew]
        cases htype : field.type <;> cases hoptions : field.options <;> simp_all

end Field

/-! ### Lists of fields -/

namespace Catalog

variable {fields : List Field} {error : CatalogError}

theorem problem?_eq_firstFault? (seen : List String) (fields : List Field) :
    problem? seen fields = firstFault? Field.name (fun seen field => field.problem? seen) seen fields
    := by
  induction fields generalizing seen with
  | nil => rfl
  | cons field fields ih => rw [problem?, firstFault?, ih]

theorem problem?_eq_none_iff : problem? [] fields = none ↔ AreFields fields := by
  have hcheck : ∀ (seen : List String) (field : Field), field.problem? seen = none ↔
      ((Text.trim field.name).isEmpty = false ∧ (field.options ≠ [] ↔ field.type = .select)) ∧
        field.name ∉ seen := fun _ _ => Field.problem?_eq_none_iff
  rw [problem?_eq_firstFault?, firstFault?_eq_none_iff hcheck]
  constructor
  · rintro ⟨hall, hdistinct⟩
    exact ⟨fun field hf => (hall field hf).1.1, hdistinct, fun field hf => (hall field hf).1.2⟩
  · intro h
    exact ⟨fun field hf => ⟨⟨h.named field hf, h.options field hf⟩, List.not_mem_nil⟩, h.distinct⟩

/-- What is wrong first with a list of fields is wrong with the first field that breaks a rule:
nothing is wrong with those before it. -/
theorem problem?_eq_some_iff :
    problem? [] fields = some error ↔
      ∃ before field after, fields = before ++ field :: after ∧ AreFields before ∧
        field.Breaks (before.map Field.name) error := by
  rw [problem?_eq_firstFault?, firstFault?_eq_some_iff]
  simp only [← problem?_eq_firstFault?, problem?_eq_none_iff, List.append_nil,
    Field.problem?_reverse, Field.problem?_eq_some_iff]

/-- A list of fields forms a catalog if nothing is wrong with it. -/
theorem ofFields_eq_ok_iff {catalog : Catalog} :
    ofFields fields = .ok catalog ↔ catalog.fields = fields := by
  unfold ofFields
  split
  · next hnone =>
    constructor
    · rintro ⟨⟩
      rfl
    · rintro rfl
      rfl
  · next found hsome =>
    constructor
    · rintro ⟨⟩
    · rintro rfl
      rw [catalog.valid] at hsome
      cases hsome

theorem ofFields_eq_error_iff :
    ofFields fields = .error error ↔ problem? [] fields = some error := by
  unfold ofFields
  split
  · next hnone => simp [hnone]
  · next found hsome => simp [hsome]

end Catalog

/-! ### In JSON -/

theorem FieldType.ofJson_name (type : FieldType) :
    Field.typeOfJson (.string type.name) = .ok type := by
  cases type <;> rfl

/-- A field is read again: where its options are left out, there are none. -/
theorem Field.ofJson_toJson (field : Field) : ofJson field.toJson = .ok field := by
  obtain ⟨name, label, type, options⟩ := field
  cases options with
  | nil => simp [toJson, ofJson, FieldType.ofJson_name]
  | cons option options =>
      simp [toJson, ofJson, FieldType.ofJson_name, Json.asStrings_ofStrings]

namespace Catalog

theorem ofFields_fields (catalog : Catalog) : ofFields catalog.fields = .ok catalog :=
  ofFields_eq_ok_iff.2 rfl

/-- A catalog is read again: its fields pass the checks that they have passed before. -/
theorem ofJson_toJson (catalog : Catalog) : ofJson catalog.toJson = .ok catalog := by
  have hfields : (catalog.fields.map Field.toJson).mapM Field.ofJson = .ok catalog.fields :=
    Json.mapM_map_eq_ok fun field _ => field.ofJson_toJson
  simp [toJson, ofJson, hfields, ofFields_fields]

/-! ### Look-up -/

/-- Fields are looked up alike in two catalogs, whatever is asked. -/
structure LooksUpLike (catalog other : Catalog) : Prop where
  /-- The fields. -/
  field? : ∀ name, catalog.field? name = other.field? name
  /-- Is there a field? -/
  contains : ∀ name, catalog.contains name = other.contains name
  /-- The types. -/
  fieldType? : ∀ name, catalog.fieldType? name = other.fieldType? name
  /-- What there is to select from. -/
  options : ∀ name, catalog.options name = other.options name
  /-- The operators that may be used. -/
  operators : ∀ name, catalog.operators name = other.operators name

variable {catalog other : Catalog}

theorem LooksUpLike.of_field? (h : ∀ name, catalog.field? name = other.field? name) :
    LooksUpLike catalog other where
  field? := h
  contains name := by rw [Catalog.contains, h, Catalog.contains]
  fieldType? name := by rw [Catalog.fieldType?, h, Catalog.fieldType?]
  options name := by rw [Catalog.options, h, Catalog.options]
  operators name := by
    rw [Catalog.operators, Catalog.operators, Catalog.fieldType?, Catalog.fieldType?, h]

theorem field?_eq_some_iff {name : String} {field : Field} :
    catalog.field? name = some field ↔ field ∈ catalog.fields ∧ field.name = name :=
  find?_key_eq_some_iff (problem?_eq_none_iff.1 catalog.valid).distinct

theorem looksUpLike_of_perm (h : catalog.fields.Perm other.fields) : LooksUpLike catalog other :=
  .of_field? (find?_key_perm h (problem?_eq_none_iff.1 catalog.valid).distinct)

end Catalog

theorem AreFields.perm {fields others : List Field} (hfields : AreFields fields)
    (h : fields.Perm others) : AreFields others where
  named field hf := hfields.named field (h.mem_iff.2 hf)
  distinct := (h.map Field.name).nodup_iff.1 hfields.distinct
  options field hf := hfields.options field (h.mem_iff.2 hf)

/-! ### Catalogs -/

/-- **Catalogs are the valid lists of fields**: a list forms a catalog just when nothing is wrong
with it, and of any other what is wrong with the first field that breaks a rule is reported.  A
catalog has the fields of its list and is read again from JSON; it has one field at most to a name,
and in another order the fields form a catalog in which they are looked up alike. -/
theorem catalogs_are_valid_fields (fields : List Field) :
    ((∃ catalog, Catalog.ofFields fields = .ok catalog) ↔ AreFields fields) ∧
    (∀ error, Catalog.ofFields fields = .error error ↔
      ∃ before field after, fields = before ++ field :: after ∧ AreFields before ∧
        field.Breaks (before.map Field.name) error) ∧
    ∀ catalog, Catalog.ofFields fields = .ok catalog →
      catalog.fields = fields ∧ Catalog.ofJson catalog.toJson = .ok catalog ∧
      (∀ name field, catalog.field? name = some field ↔ field ∈ fields ∧ field.name = name) ∧
      ∀ others, fields.Perm others →
        ∃ other, Catalog.ofFields others = .ok other ∧ catalog.LooksUpLike other := by
  refine ⟨⟨?_, fun h => ?_⟩, fun error => ?_, fun catalog hcatalog => ?_⟩
  · rintro ⟨catalog, hcatalog⟩
    rw [← Catalog.ofFields_eq_ok_iff.1 hcatalog]
    exact Catalog.problem?_eq_none_iff.1 catalog.valid
  · exact ⟨⟨fields, Catalog.problem?_eq_none_iff.2 h⟩, Catalog.ofFields_eq_ok_iff.2 rfl⟩
  · rw [Catalog.ofFields_eq_error_iff, Catalog.problem?_eq_some_iff]
  · obtain rfl := Catalog.ofFields_eq_ok_iff.1 hcatalog
    refine ⟨rfl, catalog.ofJson_toJson, fun _ _ => Catalog.field?_eq_some_iff, ?_⟩
    intro others hperm
    have hothers := (Catalog.problem?_eq_none_iff.1 catalog.valid).perm hperm
    refine ⟨⟨others, Catalog.problem?_eq_none_iff.2 hothers⟩, Catalog.ofFields_eq_ok_iff.2 rfl, ?_⟩
    exact Catalog.looksUpLike_of_perm hperm

/-- The fields of a survey: a number of visits, and a plan to select. -/
def surveyFields : List Field :=
  [⟨"visits", "Visits", .number, []⟩, ⟨"plan", "Plan", .select, ["Free", "Paid"]⟩]

/-- The survey has a catalog in either order, and the plan is found in both.  With the visits once
more it has none: the third field is refused. -/
theorem surveyFields_form_catalogs :
    (∃ catalog other, Catalog.ofFields surveyFields = .ok catalog ∧
      Catalog.ofFields surveyFields.reverse = .ok other ∧ catalog.LooksUpLike other ∧
      catalog.field? "plan" = some ⟨"plan", "Plan", .select, ["Free", "Paid"]⟩ ∧
      Catalog.ofJson catalog.toJson = .ok catalog) ∧
    Catalog.ofFields (surveyFields ++ [⟨"visits", "Calls", .number, []⟩])
      = .error (.duplicate "visits") := by
  obtain ⟨hvalid, -, hcatalog⟩ := catalogs_are_valid_fields surveyFields
  have hfields : AreFields surveyFields := Catalog.problem?_eq_none_iff.1 (by decide +kernel)
  constructor
  · obtain ⟨catalog, h⟩ := hvalid.2 hfields
    obtain ⟨-, hread, hfind, hperm⟩ := hcatalog catalog h
    obtain ⟨other, hother, halike⟩ := hperm _ (List.reverse_perm surveyFields).symm
    have hplan := (hfind "plan" ⟨"plan", "Plan", .select, ["Free", "Paid"]⟩).2 (by decide)
    exact ⟨catalog, other, h, hother, halike, hplan, hread⟩
  · obtain ⟨-, hrefused, -⟩ :=
      catalogs_are_valid_fields (surveyFields ++ [⟨"visits", "Calls", .number, []⟩])
    refine (hrefused _).2 ⟨surveyFields, _, [], rfl, hfields, ?_⟩
    exact .duplicate (by decide +kernel) (by decide)

end Audience
