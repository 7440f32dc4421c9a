import SfcBundler.Proofs.Json.Ordered

/-!
# Records read out of values

The fields of a record are found in an object by their names and in an array by their places. Which
of the two it is, and in which order the fields are read, does not count: the record is what the
fields make of it in their declared order.

## Main definitions

* `Json.fieldOf`, `Json.IsForm`: where the fields of a record stand in a value
* `Json.SameFields`: two values with the same fields, each in a form of its own
* `FieldShape.putting`, `FieldShape.Independent`: fields that leave the others alone
* `RecordShape.fill`: a record filled with the values of its fields
* `FieldShape.Says`: what is found in a field that may be absent

## Main results

* `RecordShape.read_eq_ok_iff`: a record is read if its fields can be filled
* `RecordShape.read_iff_of_sameFields`: values with the same fields are read alike
* `RecordShape.fill_required_iff`, `RecordShape.fill_optional_iff`: one field of a filled record
-/

namespace SfcBundler

namespace Json

/-- The value of a field: in an object the one with its name, in an array the one at the place that
its name has among the names. -/
def fieldOf (names : List String) (value : Json) (name : String) : Option Json :=
  match value with
  | object fields => fields.lookup name
  | array items => (names.zip items).lookup name
  | _ => none

/-- A value that holds fields: an object, whatever else stands in it, or an array of the leading
fields. -/
inductive IsForm (names : List String) : Json → Prop
  | object (fields : List (String × Json)) : IsForm names (object fields)
  | array {items : List Json} (h : items.length ≤ names.length) : IsForm names (array items)

/-- Two values that give the same values to the fields of a record, each in a form of its own. -/
structure SameFields (names : List String) (one other : Json) : Prop where
  form : one.IsForm names
  form' : other.IsForm names
  same : ∀ name ∈ names, one.fieldOf names name = other.fieldOf names name

theorem Ordered.nodup_names {fields : List (String × Json)} (h : Ordered (.object fields)) :
    (fields.map Prod.fst).Nodup := by
  refine List.pairwise_map.2 (h.areOrdered.names.imp ?_)
  intro one other hlt heq
  rw [heq] at hlt
  exact String.lt_irrefl _ hlt

/-- With names that differ, the value of a field in an array is the one at its place. -/
theorem lookup_zip {names : List String} (hnames : names.Nodup) (items : List Json) {index : Nat}
    {name : String} (h : names[index]? = some name) :
    (names.zip items).lookup name = items[index]? := by
  induction names generalizing items index with
  | nil => cases h
  | cons first names ih =>
    obtain ⟨hfirst, hnames⟩ := List.nodup_cons.1 hnames
    cases items with
    | nil => rfl
    | cons item items =>
      cases index with
      | zero =>
        obtain rfl := Option.some.inj h
        simp
      | succ index =>
        have hne : name ≠ first := by
          rintro rfl
          exact hfirst (List.mem_of_getElem? h)
        rw [List.zip_cons_cons, List.lookup_cons, beq_false_of_ne hne]
        exact ih hnames items h

end Json

namespace FieldShape

variable {α β γ : Type}

/-- A field whose value is read by itself and put into the record. -/
def putting (name : String) (required : Bool) (parse : Json → Except ShapeError β)
    (put : β → α → α) : FieldShape α where
  name
  required
  read := fun value record => do return put (← parse value) record

/-- The record with a value read into a field, if it can be read. -/
def take (field : FieldShape α) (value : Json) (record : α) : Option α :=
  (field.read value record).toOption

/-- Two fields that can be read in either order. -/
def Independent (one other : FieldShape α) : Prop :=
  ∀ value value' record, (one.take value record).bind (other.take value') =
    (other.take value' record).bind (one.take value)

theorem read_putting (name : String) (required : Bool) (parse : Json → Except ShapeError β)
    (put : β → α → α) (value : Json) (record : α) :
    (putting name required parse put).read value record =
      (parse value).map fun found => put found record := bind_pure_comp _ _

theorem take_putting (name : String) (required : Bool) (parse : Json → Except ShapeError β)
    (put : β → α → α) (value : Json) (record : α) :
    (putting name required parse put).take value record =
      (parse value).toOption.map fun found => put found record := by
  rw [take, read_putting]
  cases parse value <;> rfl

/-- Fields that are put into a record in either order can be read in either order. -/
theorem independent_putting {name name' : String} {required required' : Bool}
    {parse : Json → Except ShapeError β} {parse' : Json → Except ShapeError γ}
    {put : β → α → α} {put' : γ → α → α}
    (h : ∀ found found' record,
      put' found' (put found record) = put found (put' found' record)) :
    (putting name required parse put).Independent (putting name' required' parse' put') := by
  intro value value' record
  rw [take_putting, take_putting]
  cases hfound : (parse value).toOption <;> cases hfound' : (parse' value').toOption <;>
    simp [take_putting, hfound, hfound', h]

/-- What a field that may be absent holds: what is read there, or `absent`. -/
inductive Says (parse : Json → Except ShapeError β) (absent : β) : Option Json → β → Prop
  | absent : Says parse absent none absent
  | found {value : Json} {content : β} (h : parse value = .ok content) :
    Says parse absent (some value) content

theorem says_none_iff {parse : Json → Except ShapeError β} {absent content : β} :
    Says parse absent none content ↔ content = absent :=
  ⟨fun | .absent => rfl, fun h => h ▸ .absent⟩

theorem says_some_iff {parse : Json → Except ShapeError β} {absent content : β} {value : Json} :
    Says parse absent (some value) content ↔ parse value = .ok content :=
  ⟨fun | .found h => h, .found⟩

end FieldShape

namespace RecordShape

variable {α : Type}

/-- The names of a record's fields in their declared order. -/
def names (shape : RecordShape α) : List String := shape.fields.map FieldShape.name

/-- A record whose fields have names of their own and leave each other alone. -/
structure IsRegular (shape : RecordShape α) : Prop where
  nodup : shape.names.Nodup
  independent : shape.fields.Pairwise FieldShape.Independent

/-- A record filled with the values given for its fields, in their declared order. -/
def fill (given : String → Option Json) : List (FieldShape α) → α → Option α
  | [], record => some record
  | field :: rest, record =>
    match given field.name with
    | some value => (field.take value record).bind (fill given rest)
    | none => if field.required then none else fill given rest record

theorem fill_cons_of_some {given : String → Option Json} {field : FieldShape α} {value : Json}
    (h : given field.name = some value) (rest : List (FieldShape α)) (record : α) :
    fill given (field :: rest) record = (field.take value record).bind (fill given rest) := by
  rw [fill, h]

theorem fill_cons_of_none {given : String → Option Json} {field : FieldShape α}
    (h : given field.name = none) (rest : List (FieldShape α)) (record : α) :
    fill given (field :: rest) record =
      if field.required then none else fill given rest record := by
  rw [fill, h]

/-- A record is filled alike where the fields have the same values. -/
theorem fill_congr {given given' : String → Option Json} {fields : List (FieldShape α)}
    (h : ∀ field ∈ fields, given field.name = given' field.name) (record : α) :
    fill given fields record = fill given' fields record := by
  induction fields generalizing record with
  | nil => rfl
  | cons field rest ih =>
    obtain ⟨hfield, hrest⟩ := List.forall_mem_cons.1 h
    cases hgiven : given field.name with
    | none =>
      rw [fill_cons_of_none hgiven, fill_cons_of_none (hfield.symm.trans hgiven), ih hrest]
    | some value =>
      rw [fill_cons_of_some hgiven, fill_cons_of_some (hfield.symm.trans hgiven),
        funext (ih hrest)]

section Putting

variable {β : Type} {given : String → Option Json} {name : String}
  {parse : Json → Except ShapeError β} {put : β → α → α} {rest : List (FieldShape α)}
  {record filled : α}

theorem take_putting_bind_eq_some_iff {required : Bool} {value : Json} {next : α → Option α} :
    ((FieldShape.putting name required parse put).take value record).bind next = some filled ↔
      ∃ content, parse value = .ok content ∧ next (put content record) = some filled := by
  rw [FieldShape.take_putting]
  cases parse value <;> simp [Except.toOption]

/-- A required field must be there. -/
theorem fill_required_iff :
    fill given (.putting name true parse put :: rest) record = some filled ↔
      ∃ value content, given name = some value ∧ parse value = .ok content ∧
        fill given rest (put content record) = some filled := by
  rw [fill]
  change (match given name with
    | some value => ((FieldShape.putting name true parse put).take value record).bind
        (fill given rest)
    | none => none) = _ ↔ _
  cases given name with
  | none => simp
  | some value => simp [take_putting_bind_eq_some_iff]

/-- A field that is not required may be absent, and then its content is the one that the record has
anyway. -/
theorem fill_optional_iff (absent : β) (habsent : put absent record = record) :
    fill given (.putting name false parse put :: rest) record = some filled ↔
      ∃ content, FieldShape.Says parse absent (given name) content ∧
        fill given rest (put content record) = some filled := by
  rw [fill]
  change (match given name with
    | some value => ((FieldShape.putting name false parse put).take value record).bind
        (fill given rest)
    | none => fill given rest record) = _ ↔ _
  cases given name with
  | none => simp [FieldShape.says_none_iff, habsent]
  | some value => simp [FieldShape.says_some_iff, take_putting_bind_eq_some_iff]

/-- A field that is not required and in which only one content can stand. -/
theorem fill_known_iff {absent known : β} {valid : Prop}
    (hknown : ∀ content, FieldShape.Says parse absent (given name) content ↔
      valid ∧ content = known) (habsent : put absent record = record) :
    fill given (.putting name false parse put :: rest) record = some filled ↔
      valid ∧ fill given rest (put known record) = some filled := by
  rw [fill_optional_iff absent habsent]
  simp only [hknown, and_assoc, exists_and_left, exists_eq_left]

theorem fill_nil_iff : fill given [] record = some filled ↔ filled = record := by
  simp [fill, eq_comm]

end Putting

theorem toOption_bind {β γ ε : Type} (first : Except ε β) (next : β → Except ε γ) :
    (first >>= next).toOption = first.toOption.bind fun found => (next found).toOption := by
  cases first <;> rfl

section Array

variable {shape : RecordShape α} {fields : List (FieldShape α)} {items : List Json}

theorem toOption_readArray {given : String → Option Json}
    (hgiven : ∀ (index : Nat) (field : FieldShape α), fields[index]? = some field →
      given field.name = items[index]?)
    (hlength : items.length ≤ fields.length) (position : Nat) (record : α) :
    (shape.readArray position record fields items).toOption = fill given fields record := by
  induction fields generalizing items position record with
  | nil =>
    obtain rfl := List.length_eq_zero_iff.1 (Nat.le_zero.1 hlength)
    rfl
  | cons field rest ih =>
    have hfirst := hgiven 0 field rfl
    have hrest (index : Nat) (other : FieldShape α) (h : rest[index]? = some other) :
        given other.name = items[index + 1]? := hgiven (index + 1) other h
    cases items with
    | nil =>
      -- behind the last item all fields are absent
      rw [fill_cons_of_none hfirst, readArray]
      split
      · rfl
      · exact ih hrest (Nat.zero_le _) (position + 1) record
    | cons item items =>
      rw [fill_cons_of_some hfirst, readArray, toOption_bind]
      exact congrArg _ (funext fun record =>
        ih hrest (Nat.le_of_succ_le_succ hlength) (position + 1) record)

/-- More items than fields are not read. -/
theorem toOption_readArray_of_lt (h : fields.length < items.length) (position : Nat) (record : α) :
    (shape.readArray position record fields items).toOption = none := by
  induction fields generalizing items position record with
  | nil =>
    cases items with
    | nil => cases h
    | cons => rfl
  | cons field rest ih =>
    cases items with
    | nil => cases h
    | cons item items =>
      rw [readArray, toOption_bind, Option.bind_eq_none_iff]
      exact fun record _ => ih (Nat.lt_of_succ_lt_succ h) (position + 1) record

end Array

/-! ### Objects -/

/-- Entries read into fields in the order of the entries. -/
def takeEntries (fields : List (FieldShape α)) : List (String × Json) → α → Option α
  | [], record => some record
  | (name, value) :: rest, record =>
    match fields.find? fun field => field.name == name with
    | none => takeEntries fields rest record
    | some field => (field.take value record).bind (takeEntries fields rest)

section Object

variable {shape : RecordShape α} {field : FieldShape α} {fields rest : List (FieldShape α)}
  {entries front back : List (String × Json)} {name : String} {value : Json}

theorem toOption_readObject (record : α) :
    (shape.readObject record entries).toOption = takeEntries shape.fields entries record := by
  induction entries generalizing record with
  | nil => rfl
  | cons entry entries ih =>
    obtain ⟨name, value⟩ := entry
    rw [readObject, takeEntries]
    cases shape.fields.find? fun field => field.name == name with
    | none => exact ih record
    | some field =>
      rw [toOption_bind]
      exact congrArg _ (funext ih)

theorem takeEntries_cons_of_some (h : (fields.find? fun field => field.name == name) = some field)
    (entries : List (String × Json)) (record : α) :
    takeEntries fields ((name, value) :: entries) record =
      (field.take value record).bind (takeEntries fields entries) := by
  rw [takeEntries, h]

theorem takeEntries_cons_of_none (h : (fields.find? fun field => field.name == name) = none)
    (entries : List (String × Json)) (record : α) :
    takeEntries fields ((name, value) :: entries) record = takeEntries fields entries record := by
  rw [takeEntries, h]

theorem takeEntries_nil (entries : List (String × Json)) (record : α) :
    takeEntries [] entries record = some record := by
  induction entries with
  | nil => rfl
  | cons entry entries ih => exact ih

theorem takeEntries_append (record : α) :
    takeEntries fields (front ++ back) record =
      (takeEntries fields front record).bind (takeEntries fields back) := by
  induction front generalizing record with
  | nil => rfl
  | cons entry front ih =>
    obtain ⟨name, value⟩ := entry
    rw [List.cons_append]
    cases hfound : fields.find? fun field => field.name == name with
    | none => rw [takeEntries_cons_of_none hfound, takeEntries_cons_of_none hfound, ih]
    | some field =>
      rw [takeEntries_cons_of_some hfound, takeEntries_cons_of_some hfound, Option.bind_assoc,
        funext ih]

/-- A field without an entry is passed over. -/
theorem takeEntries_of_forall_ne (h : ∀ entry ∈ entries, entry.1 ≠ field.name) (record : α) :
    takeEntries (field :: rest) entries record = takeEntries rest entries record := by
  induction entries generalizing record with
  | nil => rfl
  | cons entry entries ih =>
    obtain ⟨name, value⟩ := entry
    obtain ⟨hname, hentries⟩ := List.forall_mem_cons.1 h
    have hfind : ((field :: rest).find? fun field => field.name == name) =
        rest.find? fun field => field.name == name :=
      List.find?_cons_of_neg (by simpa using Ne.symm hname)
    cases hfound : rest.find? fun field => field.name == name with
    | none =>
      rw [takeEntries_cons_of_none (hfind.trans hfound), takeEntries_cons_of_none hfound,
        ih hentries]
    | some found =>
      rw [takeEntries_cons_of_some (hfind.trans hfound), takeEntries_cons_of_some hfound,
        funext (ih hentries)]

/-- An entry without a field is passed over. -/
theorem takeEntries_unknown (h : ∀ field ∈ fields, field.name ≠ name) (record : α) :
    takeEntries fields ((name, value) :: back) record = takeEntries fields back record :=
  takeEntries_cons_of_none (List.find?_eq_none.2 fun field hfield => by simpa using h field hfield)
    back record

/-- A field that leaves the others alone may be read before them. -/
theorem takeEntries_bind_take (h : ∀ other ∈ rest, field.Independent other) (record : α) :
    (takeEntries rest entries record).bind (field.take value) =
      (field.take value record).bind (takeEntries rest entries) := by
  induction entries generalizing record with
  | nil => exact (Option.bind_some ..).trans (Option.bind_fun_some _).symm
  | cons entry entries ih =>
    obtain ⟨name, other⟩ := entry
    cases hfound : rest.find? fun field => field.name == name with
    | none => rw [funext (takeEntries_cons_of_none hfound entries), ih]
    | some found =>
      -- the entry is read into another field, and the two fields may be read in either order
      have hindependent := h found (List.mem_of_find?_eq_some hfound)
      rw [funext (takeEntries_cons_of_some hfound entries)]
      calc
        _ = (found.take other record).bind fun record =>
            (takeEntries rest entries record).bind (field.take value) := Option.bind_assoc ..
        _ = ((found.take other record).bind (field.take value)).bind
            (takeEntries rest entries) := by
          rw [funext ih, Option.bind_assoc]
        _ = (field.take value record).bind fun record =>
            (found.take other record).bind (takeEntries rest entries) := by
          rw [← hindependent, Option.bind_assoc]

/-- The first field may be read before all other entries. -/
theorem takeEntries_cons (hentries : (entries.map Prod.fst).Nodup)
    (hfield : ∀ other ∈ rest, other.name ≠ field.name)
    (hindependent : ∀ other ∈ rest, field.Independent other)
    (hvalue : entries.lookup field.name = some value) (record : α) :
    takeEntries (field :: rest) entries record =
      (field.take value record).bind (takeEntries rest entries) := by
  -- the entry of the field stands between entries of other fields
  obtain ⟨front, back, rfl, hfront⟩ := List.lookup_eq_some_iff.1 hvalue
  have hfront : ∀ entry ∈ front, entry.1 ≠ field.name := fun entry hentry heq =>
    absurd (hfront entry hentry) (by simp [heq])
  have hback : ∀ entry ∈ back, entry.1 ≠ field.name := by
    intro entry hentry heq
    have hmem : entry.1 ∈ back.map Prod.fst := List.mem_map_of_mem hentry
    rw [List.map_append, List.map_cons, List.nodup_append] at hentries
    rw [heq] at hmem
    exact (List.nodup_cons.1 hentries.2.1).1 hmem
  have hhere (record : α) : takeEntries (field :: rest) ((field.name, value) :: back) record =
      (field.take value record).bind (takeEntries rest back) := by
    rw [takeEntries_cons_of_some (List.find?_cons_of_pos (by simp)),
      funext (takeEntries_of_forall_ne hback)]
  have hrest (record : α) : takeEntries rest (front ++ (field.name, value) :: back) record =
      (takeEntries rest front record).bind (takeEntries rest back) := by
    rw [takeEntries_append]
    exact congrArg _ (funext (takeEntries_unknown hfield))
  rw [takeEntries_append, takeEntries_of_forall_ne hfront, funext hhere, ← Option.bind_assoc,
    takeEntries_bind_take hindependent, funext hrest, Option.bind_assoc]

/-- With all required fields among them, entries in any order fill a record. -/
theorem takeEntries_bind_complete (hentries : (entries.map Prod.fst).Nodup)
    (hnames : (fields.map FieldShape.name).Nodup)
    (hindependent : fields.Pairwise FieldShape.Independent) (record : α) :
    ((takeEntries fields entries record).bind fun filled =>
      match fields.find? fun field => field.required && !entries.any (·.1 == field.name) with
      | some _ => none
      | none => some filled) = fill (entries.lookup ·) fields record := by
  induction fields generalizing record with
  | nil => rw [takeEntries_nil]; rfl
  | cons field rest ih =>
    obtain ⟨hname, hnames⟩ := List.nodup_cons.1 hnames
    obtain ⟨hfirst, hindependent⟩ := List.pairwise_cons.1 hindependent
    have hother : ∀ other ∈ rest, other.name ≠ field.name := fun other hother heq =>
      hname (heq ▸ List.mem_map_of_mem hother)
    -- the field is read before the others, wherever its entry stands, or it has none
    cases hlookup : entries.lookup field.name with
    | none =>
      have hnone : ∀ entry ∈ entries, entry.1 ≠ field.name := fun entry hentry heq =>
        absurd (List.lookup_eq_none_iff.1 hlookup entry hentry) (by simp [heq])
      have hany : (entries.any fun entry => entry.1 == field.name) = false := by
        simpa using fun name value hentry => hnone (name, value) hentry
      rw [takeEntries_of_forall_ne hnone, fill_cons_of_none hlookup]
      cases hrequired : field.required with
      | true =>
        rw [List.find?_cons_of_pos (by simp [hany, hrequired])]
        exact Option.bind_fun_none _
      | false =>
        rw [List.find?_cons_of_neg (by simp [hrequired])]
        exact ih hnames hindependent record
    | some value =>
      have hany : (entries.any fun entry => entry.1 == field.name) = true := by
        obtain ⟨front, back, rfl, -⟩ := List.lookup_eq_some_iff.1 hlookup
        simp
      rw [takeEntries_cons hentries hother hfirst hlookup, Option.bind_assoc,
        List.find?_cons_of_neg (by simp [hany]), fill_cons_of_some hlookup,
        funext (ih hnames hindependent)]

end Object

/-! ### Values -/

section Value

variable {shape : RecordShape α} {record : α}

theorem toOption_eq_some_iff {β ε : Type} {read : Except ε β} {found : β} :
    read.toOption = some found ↔ read = .ok found := by
  cases read <;> simp [Except.toOption]

theorem read_object_eq_ok_iff (h : shape.IsRegular) {entries : List (String × Json)}
    (hentries : (Json.object entries).Ordered) :
    shape.read (.object entries) = .ok record ↔
      fill (entries.lookup ·) shape.fields shape.blank = some record := by
  rw [← takeEntries_bind_complete hentries.nodup_names h.nodup h.independent,
    ← toOption_readObject, ← toOption_eq_some_iff, read, toOption_bind]
  -- a field that is missing leaves nothing in either way
  refine iff_of_eq (congrArg (· = some record) (congrArg _ (funext fun filled => ?_)))
  cases shape.fields.find? fun field => field.required && !entries.any (·.1 == field.name) <;> rfl

theorem getElem?_names {index : Nat} {field : FieldShape α}
    (h : shape.fields[index]? = some field) : shape.names[index]? = some field.name := by
  rw [names, List.getElem?_map, h]
  rfl

theorem read_array_eq_ok_iff (h : shape.IsRegular) {items : List Json}
    (hlength : items.length ≤ shape.names.length) :
    shape.read (.array items) = .ok record ↔
      fill ((shape.names.zip items).lookup ·) shape.fields shape.blank = some record := by
  have hgiven (index : Nat) (field : FieldShape α) (hfield : shape.fields[index]? = some field) :
      (shape.names.zip items).lookup field.name = items[index]? :=
    Json.lookup_zip h.nodup items (getElem?_names hfield)
  rw [names, List.length_map] at hlength
  rw [← toOption_eq_some_iff, read]
  exact iff_of_eq (congrArg (· = some record) (toOption_readArray hgiven hlength 0 shape.blank))

/-- A record is read from a value exactly if its fields can be filled with what stands there. -/
theorem read_eq_ok_iff (h : shape.IsRegular) {value : Json} (hvalue : value.Ordered) :
    shape.read value = .ok record ↔ value.IsForm shape.names ∧
      fill (value.fieldOf shape.names) shape.fields shape.blank = some record := by
  cases value with
  | object entries =>
    rw [read_object_eq_ok_iff h hvalue]
    exact (and_iff_right (.object entries)).symm
  | array items =>
    by_cases hlength : items.length ≤ shape.names.length
    · rw [read_array_eq_ok_iff h hlength]
      exact (and_iff_right (.array hlength)).symm
    · have hnot : ¬Json.IsForm shape.names (.array items) := by
        rintro ⟨⟩
        contradiction
      rw [names, List.length_map, Nat.not_le] at hlength
      rw [← toOption_eq_some_iff, read, toOption_readArray_of_lt hlength]
      simp [hnot]
  | null | bool | number | string => exact iff_of_false nofun fun hform => nomatch hform.1

/-- Values that give the same values to the fields are read alike, be they objects or arrays. -/
theorem read_iff_of_sameFields (h : shape.IsRegular) {one other : Json} (hone : one.Ordered)
    (hother : other.Ordered) (hsame : Json.SameFields shape.names one other) :
    shape.read one = .ok record ↔ shape.read other = .ok record := by
  rw [read_eq_ok_iff h hone, read_eq_ok_iff h hother, and_iff_right hsame.form,
    and_iff_right hsame.form', fill_congr fun field hfield =>
      hsame.same field.name (List.mem_map_of_mem hfield)]

end Value

end RecordShape

end SfcBundler
