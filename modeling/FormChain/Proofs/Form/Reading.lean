import FormChain.Proofs.Form.Fields

/-!
# What a reading makes of written fields

A decoder is known by two facts: what holds of everything that it reads, whatever the
document (`FormChain.Decode.Ensures`), and from which values it restores something
(`FormChain.Decode.Restores`). Both are followed through texts, numbers, words, options,
lists and records; for a record (`FormChain.Decode.Reading`) they are put together from those
of its fields.

Main statements: `FormChain.Decode.Reading.Ensures.ap` and
`FormChain.Decode.Reading.Restores.ap`, one field more on either side;
`FormChain.Decode.restores_record` and `FormChain.Decode.tagged_ofFields`, from the fields of a
record to its value.
-/

namespace FormChain

open Json (Document)

/-- A value that is there: its fields are in order, and it is not `null`, which would stand
for its absence. -/
structure Value.IsGiven (v : Value) : Prop where
  /-- Its fields are in order. -/
  wellFormed : v.WellFormed
  /-- It is not `null`. -/
  ne_null : v ≠ .null

/-- An integer that fits a signed word of 64 bits. -/
def IsInt64 (n : Int) : Prop :=
  Decimal.minInt64 ≤ n ∧ n ≤ Decimal.maxInt64

instance (n : Int) : Decidable (IsInt64 n) :=
  inferInstanceAs (Decidable (_ ∧ _))

namespace Decode

variable {α β : Type} {dec : Decoder α} {P : α → Prop}

/-! ### What holds of everything that is read -/

/-- Everything that a decoder reads has a property. -/
def Ensures (dec : Decoder α) (P : α → Prop) : Prop :=
  ∀ src d a, dec src d = .ok a → P a

theorem mismatch_ne_ok {expected : String} {d : Document} {a : α} :
    mismatch expected d ≠ .ok a := by
  unfold mismatch
  cases found d <;> nofun

theorem ensures_natural (bound : Nat) (expected : String) :
    Ensures (natural bound expected) (· ≤ bound) := by
  intro src d n h
  unfold natural at h
  split at h
  case h_1 i =>
    split at h
    case isTrue hi =>
      obtain rfl := Except.ok.inj h
      have hbound : i ≤ (bound : Int) := hi.2
      omega
    case isFalse => cases h
  case h_2 => exact absurd h mismatch_ne_ok

theorem ensures_int64 : Ensures int64 IsInt64 := by
  intro src d n h
  unfold int64 at h
  split at h
  case h_1 i =>
    split at h
    case isTrue hi =>
      obtain rfl := Except.ok.inj h
      exact hi
    case isFalse => cases h
  case h_2 => exact absurd h mismatch_ne_ok

theorem ensures_anyValue : Ensures anyValue Value.WellFormed :=
  fun _ d v h => Document.wellFormed_of_toValue d v (eq_ok_of_mapError h)

theorem Ensures.option (h : Ensures dec P) : Ensures (option dec) fun o => ∀ a ∈ o, P a := by
  intro src d o ho a ha
  obtain rfl : o = some a := ha
  unfold Decode.option at ho
  split at ho
  case h_1 => cases ho
  case h_2 =>
    obtain ⟨_, hd, hsome⟩ := exists_of_map_eq_ok ho
    obtain rfl := Option.some.inj hsome
    exact h src d _ hd

/-- A value that may be absent is not `null` where it is there. -/
theorem ensures_option_anyValue :
    Ensures (option anyValue) fun o => ∀ v ∈ o, Value.IsGiven v := by
  intro src d o ho v hv
  refine ⟨ensures_anyValue.option src d o ho v hv, ?_⟩
  rintro rfl
  obtain rfl : o = some .null := hv
  unfold option at ho
  split at ho
  case h_1 => cases ho
  case h_2 hd =>
    -- a document that is read as null is null, and was taken for absent
    obtain ⟨_, hv, hsome⟩ := exists_of_map_eq_ok ho
    obtain rfl := Option.some.inj hsome
    exact hd (Document.eq_null_of_toValue (eq_ok_of_mapError hv))

theorem Ensures.items (h : Ensures dec P) {src : Source} {ds : List Document} {as : List α}
    (has : items dec src ds = .ok as) : ∀ a ∈ as, P a := by
  induction ds generalizing as with
  | nil =>
    obtain rfl := Except.ok.inj has
    nofun
  | cons d rest ih =>
    obtain ⟨a, hd, has⟩ := exists_of_bind_eq_ok has
    obtain ⟨more, hrest, has⟩ := exists_of_bind_eq_ok has
    obtain rfl := Except.ok.inj has
    exact List.forall_mem_cons.mpr ⟨h src d a hd, ih hrest⟩

theorem Ensures.list (h : Ensures dec P) : Ensures (list dec) fun as => ∀ a ∈ as, P a := by
  intro src d as has
  unfold Decode.list at has
  split at has
  case h_1 ds stop =>
    obtain ⟨as', hds, has⟩ := exists_of_bind_eq_ok has
    obtain ⟨_, _, has⟩ := exists_of_bind_eq_ok has
    obtain rfl := Except.ok.inj has
    exact h.items hds
  case h_2 => cases has
  case h_3 => exact absurd has mismatch_ne_ok

/-! ### What holds of every record that is read -/

namespace Reading

variable {r : Reading α} {f : Reading (α → β)} {x : Reading α} {Q : β → Prop} {parts : Parts}
  {name : String}

/-- Whatever is made of some parts has a property. -/
def Ensures (r : Reading α) (parts : Parts) (P : α → Prop) : Prop :=
  ∀ src first a, r.run src parts first = .ok a → P a

/-- What is made of nothing. -/
theorem ensures_pure {a : α} (h : P a) : (Pure.pure a : Reading α).Ensures parts P := by
  intro src first a' ha
  obtain rfl := Except.ok.inj ha
  exact h

/-- A first field. -/
theorem Ensures.map {g : α → β} (h : x.Ensures parts P) (hg : ∀ a, P a → Q (g a)) :
    (g <$> x).Ensures parts Q := by
  intro src first b hb
  obtain ⟨a, ha, rfl⟩ := exists_of_map_eq_ok hb
  exact hg a (h src first a ha)

/-- **One field more**: what is made of all has a property if what is made of the earlier
ones turns everything read last into something that has it. -/
theorem Ensures.ap (hf : f.Ensures parts fun g => ∀ a, P a → Q (g a))
    (hx : x.Ensures parts P) : (f <*> x).Ensures parts Q := by
  intro src first b hb
  change (Reading.ap f x).run src parts first = .ok b at hb
  unfold Reading.ap at hb
  -- a complaint about either part is a complaint about the whole
  cases hg : f.run src parts first with
  | error e =>
    cases ha : x.run src parts (first + f.names.length) <;> simp only [hg, ha] at hb <;> cases hb
  | ok g =>
    cases ha : x.run src parts (first + f.names.length) with
    | error e => simp only [hg, ha] at hb; cases hb
    | ok a =>
      simp only [hg, ha] at hb
      obtain rfl := Except.ok.inj hb
      exact hf src first g hg a (hx src _ a ha)

/-- A first field of which nothing need be known. -/
theorem ensures_first {g : α → β} (h : ∀ a, Q (g a)) : (g <$> x).Ensures parts Q :=
  Ensures.map (fun _ _ _ _ => trivial) fun a (_ : True) => h a

/-- One field more, of which nothing need be known. -/
theorem Ensures.skip (hf : f.Ensures parts fun g => ∀ a, Q (g a)) : (f <*> x).Ensures parts Q :=
  Ensures.ap (fun src first g hg a (_ : True) => hf src first g hg a) fun _ _ _ _ => trivial

/-- What is read under a name was there, once, or it stands for its absence. -/
theorem readNamed_cases {absent : Except Complaint α} {src : Source} {a : α}
    {fields : List (Except Json.SyntaxFault String × Document)}
    (ha : readNamed name dec absent src fields = .ok a) :
    (fieldsNamed name 0 fields = [] ∧ absent = .ok a) ∨
      ∃ place d, fieldsNamed name 0 fields = [(place, d)] ∧ dec src d = .ok a := by
  unfold readNamed at ha
  split at ha
  case h_1 hnone => exact Or.inl ⟨hnone, eq_ok_of_mapError ha⟩
  case h_2 place d hone => exact Or.inr ⟨place, d, hone, eq_ok_of_mapError ha⟩
  case h_3 place d _ _ _ _ =>
    -- a second field of the name is complained about, whatever the first one holds
    cases hd : readAt dec src place d <;> rw [hd] at ha <;> cases ha

/-- What is read at a place was there, or it stands for its absence. -/
theorem readItem_cases {absent : Except Complaint α} {src : Source} {a : α} {ds : List Document}
    {stop : Option Json.Stop} {place : Nat}
    (ha : readItem dec absent src ds stop place = .ok a) :
    (ds[place]? = none ∧ absent = .ok a) ∨ ∃ d, ds[place]? = some d ∧ dec src d = .ok a := by
  unfold readItem at ha
  split at ha
  case h_1 d hd => exact Or.inr ⟨d, hd, eq_ok_of_mapError ha⟩
  case h_2 hnone =>
    cases stop with
    | some s => cases ha
    | none => exact Or.inl ⟨hnone, eq_ok_of_mapError ha⟩

section Single

variable {absent : Except Complaint α} {src : Source} {a : α} (h : Decode.Ensures dec P)
  (habsent : ∀ a, absent = .ok a → P a)
include h habsent

theorem of_readNamed {fields : List (Except Json.SyntaxFault String × Document)}
    (ha : readNamed name dec absent src fields = .ok a) : P a := by
  rcases readNamed_cases ha with ⟨-, ha⟩ | ⟨_, d, -, ha⟩
  · exact habsent a ha
  · exact h src d a ha

theorem of_readItem {ds : List Document} {stop : Option Json.Stop} {place : Nat}
    (ha : readItem dec absent src ds stop place = .ok a) : P a := by
  rcases readItem_cases ha with ⟨-, ha⟩ | ⟨d, -, ha⟩
  · exact habsent a ha
  · exact h src d a ha

end Single

theorem ensures_needed (whole : String) (total : Nat) (h : Decode.Ensures dec P) :
    (needed whole total name dec).Ensures parts P := by
  have habsent (c : Complaint) (a : α) (ha : Except.error c = Except.ok a) : P a := nomatch ha
  intro src first a ha
  cases parts with
  | fields fields stop => exact of_readNamed h (habsent _) ha
  | items ds stop => exact of_readItem h (habsent _) ha

theorem ensures_given {default : α} (h : Decode.Ensures dec P) (hdefault : P default) :
    (given name dec default).Ensures parts P := by
  have habsent (a : α) (ha : Except.ok (ε := Complaint) default = .ok a) : P a :=
    Except.ok.inj ha ▸ hdefault
  intro src first a ha
  cases parts with
  | fields fields stop => exact of_readNamed h habsent ha
  | items ds stop => exact of_readItem h habsent ha

/-- What may be absent has a property where it is there. -/
theorem ensures_given_option {dec : Decoder (Option α)}
    (h : Decode.Ensures dec fun o => ∀ a ∈ o, P a) :
    (given name dec none).Ensures parts fun o => ∀ a ∈ o, P a :=
  ensures_given h nofun

theorem ensures_given_list (h : Decode.Ensures dec P) :
    (given name (list dec) []).Ensures parts fun as => ∀ a ∈ as, P a :=
  ensures_given h.list nofun

/-- What no field of its name is there for is what is assumed. -/
theorem ensures_given_absent {default : α}
    {fields : List (Except Json.SyntaxFault String × Document)} {stop : Option Json.Stop}
    (h : fieldsNamed name 0 fields = []) :
    (given name dec default).Ensures (.fields fields stop) (· = default) := by
  intro src first a ha
  simp only [given, readNamed, h] at ha
  exact (Except.ok.inj ha).symm

end Reading

section Record

variable {r : Reading α} {src : Source} {a : α} {expected : String}

theorem run_of_readFields {fields : List (Except Json.SyntaxFault String × Document)}
    {stop : Option Json.Stop} (h : readFields r src fields stop = .ok a) :
    r.run src (.fields fields stop) 0 = .ok a := by
  unfold readFields at h
  simp only at h
  split at h
  case h_1 hr _ => exact hr.trans (congrArg Except.ok (Except.ok.inj h))
  all_goals cases h

theorem run_of_readItems {ds : List Document} {stop : Option Json.Stop}
    (h : readItems r src ds stop = .ok a) : r.run src (.items ds stop) 0 = .ok a := by
  obtain ⟨a', hr, h⟩ := exists_of_bind_eq_ok h
  obtain ⟨_, _, h⟩ := exists_of_bind_eq_ok h
  obtain rfl := Except.ok.inj h
  exact eq_ok_of_mapError hr

/-- A record is made of the fields of an object or of the items of a list. -/
theorem record_cases {d : Document} (h : record expected r src d = .ok a) :
    (∃ fields stop, d = .object fields stop ∧ r.run src (.fields fields stop) 0 = .ok a) ∨
      ∃ ds stop, d = .list ds stop ∧ r.run src (.items ds stop) 0 = .ok a := by
  unfold record at h
  split at h
  case h_1 fields stop => exact Or.inl ⟨fields, stop, rfl, run_of_readFields h⟩
  case h_2 ds stop => exact Or.inr ⟨ds, stop, rfl, run_of_readItems h⟩
  case h_3 => cases h
  case h_4 => exact absurd h mismatch_ne_ok

/-- What holds of all that is made of the fields of a record holds of the record. -/
theorem ensures_record (h : ∀ parts, r.Ensures parts P) : Ensures (record expected r) P := by
  intro src d a ha
  rcases record_cases ha with ⟨fields, stop, -, hrun⟩ | ⟨ds, stop, -, hrun⟩
  · exact h _ src 0 a hrun
  · exact h _ src 0 a hrun

end Record

/-- Only an object leaves fields behind its tag. -/
theorem object_of_tagged {τ : Type} {tagDec : Decoder τ} {name expected : String} {src : Source}
    {d : Document} {t : τ} {others : List (Except Json.SyntaxFault String × Document)}
    {stop : Option Json.Stop}
    (h : tagged name expected tagDec src d = .ok ⟨t, .fields others stop⟩) :
    ∃ fields stop', d = .object fields stop' ∧
      splitTag name tagDec src none fields = .ok (some t, others) := by
  unfold tagged at h
  split at h
  case h_1 fields stop' =>
    obtain ⟨⟨found, others'⟩, hsplit, h⟩ := exists_of_bind_eq_ok h
    obtain ⟨_, _, h⟩ := exists_of_bind_eq_ok h
    cases found with
    | none => cases h
    | some t' =>
      cases h
      exact ⟨fields, stop', rfl, hsplit⟩
  case h_2 ds stop' =>
    cases ds with
    | nil =>
      obtain ⟨_, _, h⟩ := exists_of_bind_eq_ok h
      cases h
    | cons d rest =>
      obtain ⟨_, _, h⟩ := exists_of_bind_eq_ok h
      obtain ⟨_, _, h⟩ := exists_of_bind_eq_ok h
      obtain ⟨_, _, h⟩ := exists_of_bind_eq_ok h
      cases h
  case h_3 => cases h
  case h_4 => exact absurd h mismatch_ne_ok

/-! ### What is restored from a value -/

/-- **A decoder restores something from a value**: whoever reads the value gets it, if the
value is no deeper than `room`. -/
def Restores (room : Nat) (dec : Decoder α) (v : Value) (a : α) : Prop :=
  (Document.ofValue v).height ≤ room → ∀ src, src ≠ .text → dec src (.ofValue v) = .ok a

variable {room : Nat} {v : Value} {a : α} {as : List α} {w : α → Value}

theorem restores_text (s : String) : Restores room text (.text s) s :=
  fun _ _ _ => rfl

theorem restores_bool (b : Bool) : Restores room bool (.bool b) b :=
  fun _ _ _ => rfl

theorem member_word {ω : Type} [Spelled ω] (a : ω) : member (Spelled.word a) = .ok a := by
  rw [member, Spelled.ofWord?_word]

theorem restores_word {ω : Type} [Spelled ω] (a : ω) : Restores room word (.ofWord a) a :=
  fun _ _ _ => member_word a

theorem restores_natural {bound n : Nat} {expected : String} (h : n ≤ bound) :
    Restores room (natural bound expected) (.ofNat n) n := by
  intro _ src _
  have hn : 0 ≤ Int.ofNat n ∧ Int.ofNat n ≤ Int.ofNat bound :=
    ⟨Int.natCast_nonneg n, Int.ofNat_le.mpr h⟩
  exact if_pos hn

theorem restores_int64 {n : Int} (h : IsInt64 n) : Restores room int64 (.ofInt n) n :=
  fun _ _ _ => if_pos h

theorem restores_anyValue (h : v.WellFormed) : Restores room anyValue v v := by
  intro _ src _
  rw [anyValue, Document.toValue_ofValue v h]
  rfl

theorem Restores.option (h : Restores room dec v a) (hv : v ≠ .null) :
    Restores room (option dec) v (some a) := by
  intro hroom src hsrc
  have hd : Decode.option dec src (.ofValue v) = (dec src (.ofValue v)).map some := by
    cases v with
    | null => exact absurd rfl hv
    | _ => rfl
  rw [hd, h hroom src hsrc]
  rfl

theorem Restores.list (h : ∀ a ∈ as, Restores room dec (w a) a) :
    Restores room (list dec) (.list (as.map w)) as := by
  intro hroom src hsrc
  have hitems : Document.itemsHeight (Document.ofItems (as.map w)) ≤ room →
      items dec src (Document.ofItems (as.map w)) = .ok as := by
    clear hroom
    intro hroom
    induction as with
    | nil => rfl
    | cons a rest ih =>
      obtain ⟨ha, hrest⟩ := List.forall_mem_cons.mp h
      obtain ⟨hhead, htail⟩ := Nat.max_le.mp hroom
      rw [List.map_cons, Document.ofItems, items, ha hhead src hsrc, ih hrest htail]
      rfl
  rw [Document.ofValue, Decode.list, hitems (Nat.le_of_succ_le hroom)]
  rfl

/-! ### What is restored from fields -/

namespace Reading

variable {fs : Fields} {r : Reading α} {f : Reading (α → β)} {x : Reading α} {g : α → β}
  {name : String}

/-- **A reading restores something from fields**: whoever reads them gets it. -/
def Restores (r : Reading α) (fs : Fields) (a : α) : Prop :=
  ∀ src first, src ≠ .text → r.run src (.fields fs.documents none) first = .ok a

theorem restores_pure : (Pure.pure a : Reading α).Restores fs a :=
  fun _ _ _ => rfl

theorem Restores.map (h : x.Restores fs a) : (g <$> x).Restores fs (g a) := by
  intro src first hsrc
  change (x.run src (.fields fs.documents none) first).map g = .ok (g a)
  rw [h src first hsrc]
  rfl

/-- **One field more**: what is made of the earlier fields is applied to what is made of the
last one. -/
theorem Restores.ap (hf : f.Restores fs g) (hx : x.Restores fs a) :
    (f <*> x).Restores fs (g a) := by
  intro src first hsrc
  change (Reading.ap f x).run src (.fields fs.documents none) first = .ok (g a)
  simp only [Reading.ap, hf src first hsrc, hx src _ hsrc]

theorem readNamed_of_get? {absent : Except Complaint α} {src : Source} (hsrc : src ≠ .text)
    (hv : fs.get? name = some v) (h : Decode.Restores fs.height dec v a) :
    readNamed name dec absent src fs.documents = .ok a := by
  obtain ⟨place, hfound⟩ := Fields.fieldsNamed_documents hv 0
  simp only [readNamed, hfound, readAt, h (Fields.height_le_of_get? hv) src hsrc]
  rfl

/-- A field that must be there is. -/
theorem restores_needed {whole : String} {total : Nat} (hv : fs.get? name = some v)
    (h : Decode.Restores fs.height dec v a) : (needed whole total name dec).Restores fs a :=
  fun _ _ hsrc => readNamed_of_get? hsrc hv h

/-- A field that may be absent is there. -/
theorem restores_given {default : α} (hv : fs.get? name = some v)
    (h : Decode.Restores fs.height dec v a) : (given name dec default).Restores fs a :=
  fun _ _ hsrc => readNamed_of_get? hsrc hv h

/-- A field that may be absent is absent. -/
theorem restores_given_absent {default : α} (h : fs.get? name = none) :
    (given name dec default).Restores fs default := by
  intro src first _
  change readNamed name dec (.ok default) src fs.documents = .ok default
  rw [readNamed, Fields.fieldsNamed_documents_eq_nil h]
  rfl

/-- A field that is there when it is set. -/
theorem restores_whenSet {o : Option α} (hv : fs.get? name = o.map w) (hnull : ∀ a, w a ≠ .null)
    (h : ∀ a ∈ o, Decode.Restores fs.height dec (w a) a) :
    (given name (option dec) none).Restores fs o := by
  cases o with
  | none => exact restores_given_absent hv
  | some a => exact restores_given hv ((h a rfl).option (hnull a))

theorem restores_setText {o : Option String} (hv : fs.get? name = o.map .text) :
    (given name (option text) none).Restores fs o :=
  restores_whenSet (w := Value.text) hv nofun fun s _ => restores_text s

theorem restores_setNatural {o : Option Nat} {bound : Nat} {expected : String}
    (hv : fs.get? name = o.map .ofNat) (h : ∀ n ∈ o, n ≤ bound) :
    (given name (option (natural bound expected)) none).Restores fs o :=
  restores_whenSet (w := Value.ofNat) hv nofun fun n hn => restores_natural (h n hn)

theorem restores_setValue {o : Option Value} (hv : fs.get? name = o) (h : ∀ v ∈ o, v.IsGiven) :
    (given name (option anyValue) none).Restores fs o := by
  cases o with
  | none => exact restores_given_absent hv
  | some v =>
    obtain ⟨hformed, hnull⟩ := h v rfl
    exact restores_given hv ((restores_anyValue hformed).option hnull)

/-- A field that is there when its list is not empty. -/
theorem restores_whenAny (hv : fs.get? name =
      if (as.map w).isEmpty then none else some (.list (as.map w)))
    (h : ∀ a ∈ as, Decode.Restores fs.height dec (w a) a) :
    (given name (list dec) []).Restores fs as := by
  cases as with
  | nil => exact restores_given_absent hv
  | cons a rest => exact restores_given hv (Restores.list h)

theorem restores_anyValues {vs : List Value} (hv : fs.get? name =
      if vs.isEmpty then none else some (.list vs)) (h : ∀ v ∈ vs, v.WellFormed) :
    (given name (list anyValue) []).Restores fs vs :=
  restores_whenAny (w := id) (hv.trans (by rw [List.map_id])) fun v hv =>
    restores_anyValue (h v hv)

end Reading

/-- What is restored from fields is restored by those who read nothing but them. -/
theorem readFields_documents {fs : Fields} {r : Reading α} (h : r.Restores fs a) {src : Source}
    (hsrc : src ≠ .text) : readFields r src fs.documents none = .ok a := by
  simp only [readFields, h src 0 hsrc, Fields.strayFault_documents]
  rfl

/-- **What is restored from the fields of a record is restored from its value.** -/
theorem restores_record {xs : List (String × Value)} {r : Reading α} {expected : String}
    (h : (Fields.ofList xs).height < room → r.Restores (Fields.ofList xs) a) :
    Restores room (record expected r) (.ofFields xs) a :=
  fun hroom _ hsrc => readFields_documents (h hroom) hsrc

/-! ### What is restored behind a tag -/

theorem restores_tag {τ : Type} [Spelled τ] (t : τ) {src : Source} :
    tag src (.text (Spelled.word t)) = .ok t :=
  member_word t

/-- **A tagged record is taken apart** into its tag and its other fields. -/
theorem tagged_ofFields {τ : Type} [Spelled τ] {t : τ} {xs : List (String × Value)}
    {name expected : String} {src : Source} (hsrc : src ≠ .text)
    (ht : (Fields.ofList xs).get? name = some (.ofWord t)) :
    tagged name expected tag src (.ofValue (.ofFields xs)) =
      .ok ⟨t, .fields ((Fields.ofList xs).without [name]).documents none⟩ := by
  have hsplit : splitTag name tag src none (Document.ofFields (Keyed.ofList xs)) =
      .ok (some t, ((Fields.ofList xs).without [name]).documents) :=
    Fields.splitTag_documents hsrc ht (restores_tag t)
  rw [Value.ofFields, Document.ofValue, tagged, hsplit]
  rfl

end Decode

end FormChain
