import ClusterClient.Proofs.Exchange.ClusterState
import ClusterClient.Proofs.Exchange.Dispatch
import Mathlib.Data.List.Nodup

/-!
# Headers from several places

The headers of a request are configured, brought by the call, or made of credentials, and what is accepted is added
if none of them says so. A later one takes the place of an earlier one if both are spelled the same. Names are read
in any case, though, so that headers of one name in two spellings are sent side by side.

## The architecture

* **`Headers.mem_put_iff`**, **`Headers.mem_merge_iff`**: where a header with a new value comes from.
* **`Headers.areDistinct_iff`**: names are distinct in any case if they are as spelled and no name has two spellings.
* **`ResolvedSettings.Prevails`**: which value a spelling is given (`ResolvedSettings.mem_headersFor_iff`).
* **`ResolvedSettings.SpellsAs`**: the places spell their headers alike. Then, and only then, every name has one
  value, and the places prevail over each other by name.
* **`headers_prevail_by_spelling`**: all of it, with `headers_sent_in_two_spellings` for two pairs of headers that are
  not spelled alike.
-/

namespace ClusterClient

namespace Headers

/-- The names, as they are spelled. -/
def names (headers : Headers) : List Text := headers.map Prod.fst

/-- No two headers have one name, in any case. -/
def AreDistinct (headers : Headers) : Prop := (headers.names.map Text.toLower).Nodup

instance (headers : Headers) : Decidable headers.AreDistinct := inferInstanceAs (Decidable (List.Nodup _))

variable {headers more : Headers} {name value : Text}

theorem mem_names_iff : name ∈ headers.names ↔ ∃ value, (name, value) ∈ headers := by
  simp [names]

theorem mem_names_of_mem (h : (name, value) ∈ headers) : name ∈ headers.names :=
  mem_names_iff.2 ⟨value, h⟩

/-! ### Putting -/

/-- Putting a header adds its name, unless it is there already in the same spelling. -/
theorem mem_names_put_iff {n : Text} : n ∈ (headers.put name value).names ↔ n = name ∨ n ∈ headers.names := by
  induction headers with
  | nil => simp [put, names]
  | cons header rest ih =>
    obtain ⟨first, v⟩ := header
    rw [put]
    split
    · next hsame => simp [names, hsame]
    · simp only [names, List.map_cons, List.mem_cons] at ih ⊢
      rw [ih, or_left_comm]

/-- Names that are all spelled differently stay so. A header that is put takes the place of the one that is
spelled like it, and goes to the end only if there is none. -/
theorem nodup_put (h : headers.names.Nodup) : (headers.put name value).names.Nodup := by
  induction headers with
  | nil => exact List.nodup_singleton name
  | cons header rest ih =>
    obtain ⟨first, v⟩ := header
    obtain ⟨hfirst, hrest⟩ := List.nodup_cons.1 h
    rw [put]
    split
    · exact h
    · next hother =>
      refine List.nodup_cons.2 ⟨fun hmem => ?_, ih hrest⟩
      rcases mem_names_put_iff.1 hmem with hsame | hmem
      · exact hother hsame
      · exact hfirst hmem

/-- **A header that is put has its new value**, and the others have theirs. Names are compared as they are
spelled here; that two spellings may be one name comes in later. -/
theorem mem_put_iff (h : headers.names.Nodup) {n v : Text} :
    (n, v) ∈ headers.put name value ↔ (n = name ∧ v = value) ∨ (n ≠ name ∧ (n, v) ∈ headers) := by
  induction headers with
  | nil => simp [put]
  | cons header rest ih =>
    obtain ⟨first, w⟩ := header
    obtain ⟨hfirst, hrest⟩ := List.nodup_cons.1 h
    rw [put]
    split
    · next hsame =>
      subst hsame
      -- the header is replaced, and no other one has its name
      have hnew : (n, v) ∈ rest → n ≠ first := fun hmem hn => hfirst (hn ▸ mem_names_of_mem hmem)
      simp only [List.mem_cons, Prod.mk.injEq]
      constructor
      · rintro (hput | hmem)
        · exact .inl hput
        · exact .inr ⟨hnew hmem, .inr hmem⟩
      · rintro (hput | ⟨hne, hold | hmem⟩)
        · exact .inl hput
        · exact absurd hold.1 hne
        · exact .inr hmem
    · next hother =>
      -- this header stays, and the new one goes further back
      have hold : (n = first ∧ v = w) → n ≠ name := fun hmem hn => hother (hmem.1 ▸ hn)
      rw [List.mem_cons, ih hrest, List.mem_cons, Prod.mk.injEq]
      constructor
      · rintro (hsame | hput | ⟨hne, hmem⟩)
        · exact .inr ⟨hold hsame, .inl hsame⟩
        · exact .inl hput
        · exact .inr ⟨hne, .inr hmem⟩
      · rintro (hput | ⟨hne, hsame | hmem⟩)
        · exact .inr (.inl hput)
        · exact .inl hsame
        · exact .inr (.inr ⟨hne, hmem⟩)

/-! ### Merging -/

theorem merge_cons (header : Text × Text) (headers more : Headers) :
    headers.merge (header :: more) = (headers.put header.1 header.2).merge more := rfl

/-- Names stay spelled differently while one header after the other is put. -/
theorem nodup_merge (h : headers.names.Nodup) : (headers.merge more).names.Nodup := by
  induction more generalizing headers with
  | nil => exact h
  | cons header more ih => exact ih (nodup_put h)

/-- **The second list prevails over the first**, spelling by spelling. Induction on the second list, with
whatever has been put from it before. -/
theorem mem_merge_iff (h : headers.names.Nodup) (hmore : more.names.Nodup) :
    (name, value) ∈ headers.merge more ↔
      (name, value) ∈ more ∨ (name ∉ more.names ∧ (name, value) ∈ headers) := by
  induction more generalizing headers with
  | nil => simp [merge, names]
  | cons header more ih =>
    obtain ⟨first, v⟩ := header
    obtain ⟨hfirst, hrest⟩ := List.nodup_cons.1 hmore
    -- it is put before the others, so that one of the same spelling among them would prevail over it
    rw [merge_cons, ih (nodup_put h) hrest, mem_put_iff h]
    have hlater : (name, value) ∈ more → name ≠ first := fun hmem hn => hfirst (hn ▸ mem_names_of_mem hmem)
    simp only [names, List.map_cons, List.mem_cons, Prod.mk.injEq, not_or]
    constructor
    · rintro (hmem | ⟨hnot, hput | ⟨hne, hold⟩⟩)
      · exact .inl (.inr hmem)
      · exact .inl (.inl hput)
      · exact .inr ⟨⟨hne, hnot⟩, hold⟩
    · rintro ((⟨rfl, rfl⟩ | hmem) | ⟨⟨hne, hnot⟩, hold⟩)
      · exact .inr ⟨hfirst, .inl ⟨rfl, rfl⟩⟩
      · exact .inl hmem
      · exact .inr ⟨hnot, .inr ⟨hne, hold⟩⟩

/-- The names of both lists are there. -/
theorem mem_names_merge_iff (h : headers.names.Nodup) (hmore : more.names.Nodup) :
    name ∈ (headers.merge more).names ↔ name ∈ more.names ∨ name ∈ headers.names := by
  simp only [mem_names_iff, mem_merge_iff h hmore]
  constructor
  · rintro ⟨value, hmem | ⟨-, hmem⟩⟩
    · exact .inl ⟨value, hmem⟩
    · exact .inr ⟨value, hmem⟩
  · intro hmem
    by_cases hlater : ∃ value, (name, value) ∈ more
    · exact hlater.imp fun _ => .inl
    · exact (hmem.resolve_left hlater).imp fun _ hmem => .inr ⟨hlater, hmem⟩

/-! ### Names in any case -/

theorem sameName_iff {a b : Text} : sameName a b = true ↔ a.toLower = b.toLower := decide_eq_true_iff

/-- **Names are distinct in any case** if they are as spelled and no name has two spellings. -/
theorem areDistinct_iff :
    headers.AreDistinct ↔
      headers.names.Nodup ∧ ∀ a ∈ headers.names, ∀ b ∈ headers.names, sameName a b = true → a = b := by
  simp only [sameName_iff]
  exact ⟨fun h => ⟨h.of_map _, List.inj_on_of_nodup_map h⟩, fun ⟨hnodup, hinj⟩ => hnodup.map_on hinj⟩

/-- A header is found by its name in any case, if there is but one. If there were two the first would be found,
and which one that is depends on the order of the places. -/
theorem lookup?_eq_some_iff_mem (h : headers.AreDistinct) :
    headers.lookup? name = some value ↔ ∃ n, sameName n name = true ∧ (n, value) ∈ headers := by
  rw [lookup?_eq_some_iff]
  constructor
  · rintro ⟨front, written, back, rfl, hname, -⟩
    exact ⟨written, hname, List.mem_append_right _ List.mem_cons_self⟩
  · rintro ⟨n, hname, hmem⟩
    obtain ⟨front, back, rfl⟩ := List.append_of_mem hmem
    refine ⟨front, n, back, rfl, hname, fun header hheader => ?_⟩
    rw [Bool.eq_false_iff]
    intro hsame
    have hlower : header.1.toLower = n.toLower := (sameName_iff.1 hsame).trans (sameName_iff.1 hname).symm
    -- the front would hold the name as well
    simp only [AreDistinct, names, List.map_append, List.map_cons, List.nodup_append] at h
    exact h.2.2 _ (List.mem_map_of_mem (List.mem_map_of_mem hheader)) _ List.mem_cons_self hlower

theorem sameName_symm {a b : Text} (h : sameName a b = true) : sameName b a = true :=
  sameName_iff.2 (sameName_iff.1 h).symm

/-- A header can be put beside distinct ones if none of its name is spelled in another way. -/
theorem areDistinct_put_iff (h : headers.names.Nodup) :
    (headers.put name value).AreDistinct ↔
      headers.AreDistinct ∧ ∀ a ∈ headers.names, sameName a name = true → a = name := by
  simp only [areDistinct_iff, and_iff_right h, and_iff_right (nodup_put h), mem_names_put_iff]
  constructor
  · intro hput
    exact ⟨fun a ha b hb => hput a (.inr ha) b (.inr hb), fun a ha => hput a (.inr ha) name (.inl rfl)⟩
  · rintro ⟨hdistinct, hname⟩ a (rfl | ha) b (rfl | hb) hsame
    · rfl
    · exact (hname b hb (sameName_symm hsame)).symm
    · exact hname a ha hsame
    · exact hdistinct a ha b hb hsame

/-- So can a list of headers, if the names that both lists have are spelled alike. -/
theorem areDistinct_merge_iff (h : headers.AreDistinct) (hmore : more.AreDistinct) :
    (headers.merge more).AreDistinct ↔
      ∀ a ∈ headers.names, ∀ b ∈ more.names, sameName a b = true → a = b := by
  obtain ⟨hnames, hone⟩ := areDistinct_iff.1 h
  obtain ⟨hmorenames, hmoreone⟩ := areDistinct_iff.1 hmore
  simp only [areDistinct_iff, and_iff_right (nodup_merge hnames), mem_names_merge_iff hnames hmorenames]
  constructor
  · exact fun hmerged a ha b hb => hmerged a (.inr ha) b (.inl hb)
  · rintro hpair a (ha | ha) b (hb | hb) hsame
    · exact hmoreone a ha b hb hsame
    · exact (hpair b hb a ha (sameName_symm hsame)).symm
    · exact hpair a ha b hb hsame
    · exact hone a ha b hb hsame

theorem has_eq_false_iff : headers.has name = false ↔ ∀ n ∈ headers.names, sameName n name = false := by
  simp [has, names]

theorem has_merge_eq_false_iff (h : headers.names.Nodup) (hmore : more.names.Nodup) :
    (headers.merge more).has name = false ↔ more.has name = false ∧ headers.has name = false := by
  simp only [has_eq_false_iff, mem_names_merge_iff h hmore, or_imp, forall_and]

/-- Adding what is accepted leaves the names spelled differently. -/
theorem nodup_withAccept (h : headers.names.Nodup) : headers.withAccept.names.Nodup := by
  unfold withAccept
  split
  · exact h
  · exact nodup_put h

/-- And distinct in any case, as it is added only if no header says so in any case. -/
theorem areDistinct_withAccept_iff (h : headers.names.Nodup) :
    headers.withAccept.AreDistinct ↔ headers.AreDistinct := by
  unfold withAccept
  split
  · rfl
  · next hhas =>
    rw [Bool.not_eq_true] at hhas
    rw [areDistinct_put_iff h]
    refine and_iff_left fun a ha hsame => ?_
    rw [has_eq_false_iff.1 hhas a ha] at hsame
    cases hsame

/-- The name that is added is that of what is accepted. -/
theorem mem_names_withAccept_iff :
    name ∈ headers.withAccept.names ↔ name ∈ headers.names ∨ (headers.has acceptName = false ∧ name = acceptName) := by
  unfold withAccept
  cases headers.has acceptName with
  | true => simp
  | false => rw [if_neg Bool.false_ne_true, mem_names_put_iff, and_iff_right rfl, or_comm]

/-- What is accepted is said by the headers, or it is added. If it is added there was no header of its name, so
nothing is replaced. -/
theorem mem_withAccept_iff (h : headers.names.Nodup) :
    (name, value) ∈ headers.withAccept ↔
      (name, value) ∈ headers ∨
        (headers.has acceptName = false ∧ name = acceptName ∧ value = "application/json") := by
  unfold withAccept
  cases hhas : headers.has acceptName with
  | true => simp
  | false =>
    have hnone : (name, value) ∈ headers → name ≠ acceptName := by
      rintro hmem rfl
      have hother := has_eq_false_iff.1 hhas _ (mem_names_of_mem hmem)
      exact absurd (sameName_iff.2 rfl) (by rw [hother]; exact Bool.false_ne_true)
    rw [if_neg Bool.false_ne_true, mem_put_iff h, and_iff_right rfl, and_iff_right_of_imp hnone, or_comm]

end Headers

open Headers

namespace ResolvedSettings

/-- The value that a name is given if names are told apart in this way: credentials prevail over headers of the call,
these over configured ones, and what is accepted is added if no name says so in any case. -/
inductive Prevails (same : Text → Text → Prop) (settings : ResolvedSettings) (call : Headers) (name value : Text) : Prop
  | credentials {c : Credentials} (hname : same name authorizationName) (hc : settings.credentials = some c)
    (hvalue : c.header = .ok value) : Prevails same settings call name value
  | call {n : Text} (hfree : settings.credentials.isSome → ¬same name authorizationName) (hname : same n name)
    (hcall : (n, value) ∈ call) : Prevails same settings call name value
  | configured {n : Text} (hfree : settings.credentials.isSome → ¬same name authorizationName)
    (hcall : ∀ m ∈ call.names, ¬same m name) (hname : same n name) (hconfigured : (n, value) ∈ settings.headers) :
    Prevails same settings call name value
  | accept (hname : same name acceptName) (hcall : call.has acceptName = false)
    (hconfigured : settings.headers.has acceptName = false) (hvalue : value = "application/json") :
    Prevails same settings call name value

/-- Headers of one name are spelled alike in all places. -/
structure SpellsAs (settings : ResolvedSettings) (call : Headers) : Prop where
  pair : ∀ a ∈ settings.headers.names, ∀ b ∈ call.names, sameName a b = true → a = b
  credentials : settings.credentials.isSome → ∀ a ∈ settings.headers.names ++ call.names,
    sameName a authorizationName = true → a = authorizationName

/-- The headers without credentials. -/
def unsigned (settings : ResolvedSettings) (call : Headers) : Headers := (settings.headers.merge call).withAccept

variable {settings : ResolvedSettings} {call headers : Headers} {name value : Text}

/-- The headers of a request are those without credentials, or these with credentials put over them. -/
theorem headersFor_eq_ok_iff :
    settings.headersFor call = .ok headers ↔
      (settings.credentials = none ∧ headers = settings.unsigned call) ∨
        ∃ c signature, settings.credentials = some c ∧ c.header = .ok signature ∧
          headers = (settings.unsigned call).put authorizationName signature := by
  unfold headersFor
  cases settings.credentials with
  | none => simp [unsigned, eq_comm]
  | some c => cases hheader : c.header <;> simp [hheader, unsigned, eq_comm]

/-- Headers can be made unless the credentials cannot be written in octets, whatever else there is. It is the
name and the password that matter, as the colon in between has an octet. -/
theorem exists_headersFor_iff :
    (∃ headers, settings.headersFor call = .ok headers) ↔
      ∀ c ∈ settings.credentials, ∀ p ∈ c.username ++ c.password, p.isSurrogate = false := by
  refine ⟨?_, fun h => Transport.headersFor_of_credentials h call⟩
  rintro ⟨headers, hheaders⟩ c hc p hp
  rcases headersFor_eq_ok_iff.1 hheaders with ⟨hnone, -⟩ | ⟨c', signature, hsome, hheader, -⟩
  · rw [hnone] at hc
    cases hc
  -- the header was made from the octets of the name and the password
  · obtain rfl : c' = c := Option.some.inj (hsome.symm.trans hc)
    unfold Credentials.header at hheader
    split at hheader
    · next octets hoctets =>
      refine Text.of_encode hoctets p ?_
      rw [Credentials.joined]
      rcases List.mem_append.1 hp with hname | hpassword
      · exact List.mem_append_left _ (List.mem_append_left _ hname)
      · exact List.mem_append_right _ hpassword
    · cases hheader

theorem nodup_unsigned (hconfigured : settings.headers.names.Nodup) : (settings.unsigned call).names.Nodup :=
  nodup_withAccept (nodup_merge hconfigured)

/-- So are all headers. -/
theorem nodup_of_headersFor (hconfigured : settings.headers.names.Nodup) (h : settings.headersFor call = .ok headers) :
    headers.names.Nodup := by
  rcases headersFor_eq_ok_iff.1 h with ⟨-, rfl⟩ | ⟨c, signature, -, -, rfl⟩
  · exact nodup_unsigned hconfigured
  · exact nodup_put (nodup_unsigned hconfigured)

/-- Without credentials a header is one of the call, or a configured one that the call does not bring in this
spelling, or what is added. -/
theorem mem_unsigned_iff (hconfigured : settings.headers.names.Nodup) (hcall : call.names.Nodup) :
    (name, value) ∈ settings.unsigned call ↔
      ((name, value) ∈ call ∨ (name ∉ call.names ∧ (name, value) ∈ settings.headers)) ∨
        ((call.has acceptName = false ∧ settings.headers.has acceptName = false) ∧ name = acceptName ∧
          value = "application/json") := by
  rw [unsigned, mem_withAccept_iff (nodup_merge hconfigured), mem_merge_iff hconfigured hcall,
    has_merge_eq_false_iff hconfigured hcall]

/-- The same for names. -/
theorem mem_names_unsigned_iff (hconfigured : settings.headers.names.Nodup) (hcall : call.names.Nodup) :
    name ∈ (settings.unsigned call).names ↔ (name ∈ call.names ∨ name ∈ settings.headers.names) ∨
      ((call.has acceptName = false ∧ settings.headers.has acceptName = false) ∧ name = acceptName) := by
  rw [unsigned, mem_names_withAccept_iff, mem_names_merge_iff hconfigured hcall,
    has_merge_eq_false_iff hconfigured hcall]

/-- **Which headers there are**: each spelling has the value that prevails for it. Both sides are told apart by
where the value comes from, with credentials and without. -/
theorem mem_headersFor_iff (hconfigured : settings.headers.names.Nodup) (hcall : call.names.Nodup)
    (h : settings.headersFor call = .ok headers) :
    (name, value) ∈ headers ↔ settings.Prevails (· = ·) call name value := by
  -- the added header is never the one that is signed
  have haccept : acceptName ≠ authorizationName := by decide
  have hspelled : (∀ m ∈ call.names, ¬m = name) ↔ name ∉ call.names :=
    ⟨fun hall hmem => hall name hmem rfl, fun hnot m hm hsame => hnot (hsame ▸ hm)⟩
  rcases headersFor_eq_ok_iff.1 h with ⟨hnone, rfl⟩ | ⟨c, signature, hsome, hheader, rfl⟩
  · have hfree : settings.credentials.isSome → name ≠ authorizationName := by simp [hnone]
    rw [mem_unsigned_iff hconfigured hcall]
    constructor
    · rintro ((hmem | ⟨hnot, hmem⟩) | ⟨⟨hcallhas, hhas⟩, hname, hvalue⟩)
      · exact .call hfree rfl hmem
      · exact .configured hfree (hspelled.2 hnot) rfl hmem
      · exact .accept hname hcallhas hhas hvalue
    · rintro (⟨-, hc, -⟩ | ⟨-, rfl, hmem⟩ | ⟨-, hnot, rfl, hmem⟩ | ⟨hname, hcallhas, hhas, hvalue⟩)
      · rw [hnone] at hc
        cases hc
      · exact .inl (.inl hmem)
      · exact .inl (.inr ⟨hspelled.1 hnot, hmem⟩)
      · exact .inr ⟨⟨hcallhas, hhas⟩, hname, hvalue⟩
  · rw [mem_put_iff (nodup_unsigned hconfigured), mem_unsigned_iff hconfigured hcall]
    constructor
    · rintro (⟨rfl, rfl⟩ | ⟨hne, (hmem | ⟨hnot, hmem⟩) | ⟨⟨hcallhas, hhas⟩, hname, hvalue⟩⟩)
      · exact .credentials rfl hsome hheader
      · exact .call (fun _ => hne) rfl hmem
      · exact .configured (fun _ => hne) (hspelled.2 hnot) rfl hmem
      · exact .accept hname hcallhas hhas hvalue
    · have hsigned : settings.credentials.isSome := by simp [hsome]
      rintro (⟨rfl, hc, hvalue⟩ | ⟨hfree, rfl, hmem⟩ | ⟨hfree, hnot, rfl, hmem⟩ | ⟨rfl, hcallhas, hhas, hvalue⟩)
      · obtain rfl := Option.some.inj (hsome.symm.trans hc)
        exact .inl ⟨rfl, Except.ok.inj (hvalue.symm.trans hheader)⟩
      · exact .inr ⟨hfree hsigned, .inl (.inl hmem)⟩
      · exact .inr ⟨hfree hsigned, .inl (.inr ⟨hspelled.1 hnot, hmem⟩)⟩
      · exact .inr ⟨haccept, .inr ⟨⟨hcallhas, hhas⟩, rfl, hvalue⟩⟩

/-- **Headers are sent in one spelling each** exactly if all places spell them alike. The configured headers and
those of the call clash when they name a header in two spellings, and the signature clashes with whoever spells
its name in another way. -/
theorem areDistinct_headersFor_iff (hconfigured : settings.headers.AreDistinct) (hcall : call.AreDistinct)
    (h : settings.headersFor call = .ok headers) : headers.AreDistinct ↔ settings.SpellsAs call := by
  have hnames := (areDistinct_iff.1 hconfigured).1
  have hcallnames := (areDistinct_iff.1 hcall).1
  -- first without credentials: names clash only between the two lists
  have hunsigned : (settings.unsigned call).AreDistinct ↔
      ∀ a ∈ settings.headers.names, ∀ b ∈ call.names, sameName a b = true → a = b :=
    (areDistinct_withAccept_iff (nodup_merge hnames)).trans (areDistinct_merge_iff hconfigured hcall)
  rcases headersFor_eq_ok_iff.1 h with ⟨hnone, rfl⟩ | ⟨c, signature, hsome, hheader, rfl⟩
  · rw [hunsigned]
    exact ⟨fun hpair => ⟨hpair, by simp [hnone]⟩, SpellsAs.pair⟩
  · rw [areDistinct_put_iff (nodup_unsigned hnames), hunsigned]
    simp only [mem_names_unsigned_iff hnames hcallnames]
    constructor
    · rintro ⟨hpair, hsigned⟩
      exact ⟨hpair, fun _ a ha => hsigned a (.inl (List.mem_append.1 ha).symm)⟩
    · rintro ⟨hpair, hsigned⟩
      refine ⟨hpair, ?_⟩
      rintro a (ha | ⟨-, rfl⟩) hsame
      · exact hsigned (by simp [hsome]) a (List.mem_append.2 ha.symm) hsame
      · exact absurd hsame (by decide)

/-- **Spelled alike, headers prevail by name**, in whatever case it is looked up. Spellings of one name are then
one spelling, so that each of the four ways to prevail is carried from spelling to name and back. -/
theorem exists_prevails_iff (halike : settings.SpellsAs call) :
    (∃ n, sameName n name = true ∧ settings.Prevails (· = ·) call n value) ↔
      settings.Prevails (sameName · · = true) call name value := by
  have htrans {a b c : Text} (hab : sameName a b = true) (hbc : sameName b c = true) : sameName a c = true :=
    sameName_iff.2 ((sameName_iff.1 hab).trans (sameName_iff.1 hbc))
  constructor
  · rintro ⟨n, hname, ⟨rfl, hc, hvalue⟩ | ⟨hfree, rfl, hmem⟩ | ⟨hfree, hnot, rfl, hmem⟩ | ⟨rfl, hcall, hhas, hvalue⟩⟩
    · exact .credentials (sameName_symm hname) hc hvalue
    · refine .call (fun hsigned hauth => hfree hsigned ?_) hname hmem
      -- a header in the way of the credentials would be spelled as theirs
      exact halike.credentials hsigned _ (List.mem_append_right _ (mem_names_of_mem hmem)) (htrans hname hauth)
    · refine .configured (fun hsigned hauth => hfree hsigned ?_) (fun m hm hsame => ?_) hname hmem
      · exact halike.credentials hsigned _ (List.mem_append_left _ (mem_names_of_mem hmem)) (htrans hname hauth)
      · refine hnot m hm (halike.pair _ (mem_names_of_mem hmem) m hm ?_).symm
        exact htrans hname (sameName_symm hsame)
    · exact .accept (sameName_symm hname) hcall hhas hvalue
  · rintro (⟨hname, hc, hvalue⟩ | ⟨hfree, hname, hmem⟩ | ⟨hfree, hnot, hname, hmem⟩ | ⟨hname, hcall, hhas, hvalue⟩)
    · exact ⟨_, sameName_symm hname, .credentials rfl hc hvalue⟩
    · refine ⟨_, hname, .call (fun hsigned hauth => hfree hsigned ?_) rfl hmem⟩
      exact hauth ▸ sameName_symm hname
    · refine ⟨_, hname, .configured (fun hsigned hauth => hfree hsigned ?_) (fun m hm hsame => ?_) rfl hmem⟩
      · exact hauth ▸ sameName_symm hname
      · exact hnot m hm (hsame ▸ hname)
    · exact ⟨_, sameName_symm hname, .accept rfl hcall hhas hvalue⟩

end ResolvedSettings

/-- **How headers are put together** from configured ones, those of a call, and credentials. They are there unless
the credentials hold a surrogate. Each spelling has one value, that of the place that prevails for this spelling. No
name is there in two spellings exactly if all places spell it alike, and then it has the value of the place that
prevails for the name, in whatever case it is looked up. -/
theorem headers_prevail_by_spelling {settings : ResolvedSettings} {call : Headers}
    (hconfigured : settings.headers.AreDistinct) (hcall : call.AreDistinct) :
    ((∃ headers, settings.headersFor call = .ok headers) ↔
      ∀ c ∈ settings.credentials, ∀ p ∈ c.username ++ c.password, p.isSurrogate = false) ∧
    ∀ headers, settings.headersFor call = .ok headers →
      headers.names.Nodup ∧
      (∀ name value, (name, value) ∈ headers ↔ settings.Prevails (· = ·) call name value) ∧
      (headers.AreDistinct ↔ settings.SpellsAs call) ∧
      (settings.SpellsAs call → ∀ name value,
        headers.lookup? name = some value ↔ settings.Prevails (sameName · · = true) call name value) := by
  have hnames := (areDistinct_iff.1 hconfigured).1
  have hcallnames := (areDistinct_iff.1 hcall).1
  refine ⟨ResolvedSettings.exists_headersFor_iff, fun headers h => ?_⟩
  have hdistinct := ResolvedSettings.areDistinct_headersFor_iff hconfigured hcall h
  have hmem {name value : Text} : (name, value) ∈ headers ↔ settings.Prevails (· = ·) call name value :=
    ResolvedSettings.mem_headersFor_iff hnames hcallnames h
  refine ⟨ResolvedSettings.nodup_of_headersFor hnames h, fun name value => hmem, hdistinct, fun halike name value => ?_⟩
  rw [lookup?_eq_some_iff_mem (hdistinct.2 halike)]
  simp only [hmem]
  exact ResolvedSettings.exists_prevails_iff halike

/-- The letters of `root:secret`, by evaluation. -/
private theorem header_of_root : Credentials.header ⟨"root", "secret"⟩ = .ok "Basic cm9vdDpzZWNyZXQ=" := by
  have hoctets : Credentials.joined ⟨"root", "secret"⟩ = "root:secret" := by decide
  have hencoded : ("root:secret" : Text).encode .utf8 =
      .ok [0x72, 0x6F, 0x6F, 0x74, 0x3A, 0x73, 0x65, 0x63, 0x72, 0x65, 0x74] := rfl
  have hletters : Text.ofString "Basic " ++
      Base64.encode [0x72, 0x6F, 0x6F, 0x74, 0x3A, 0x73, 0x65, 0x63, 0x72, 0x65, 0x74] = "Basic cm9vdDpzZWNyZXQ=" := by
    decide
  rw [Credentials.header, hoctets, hencoded]
  exact congrArg Except.ok hletters

/-- The call brings what is configured in the same spelling, and says what it accepts in a spelling of its own.
Looked up in any spelling, each of the four headers is found at the place that the law says. -/
theorem headers_prevail_spelled_alike :
    ∃ headers, ResolvedSettings.headersFor
        ⟨[], some ⟨"root", "secret"⟩, .standard, [("X-A", "1"), ("x-b", "2")], true, false⟩
        [("x-b", "3"), ("Accept", "text/plain")] = .ok headers ∧
      headers.AreDistinct ∧ headers.lookup? "X-B" = some "3" ∧ headers.lookup? "x-a" = some "1" ∧
      headers.lookup? "authorization" = some "Basic cm9vdDpzZWNyZXQ=" ∧
      headers.lookup? "accept" = some "text/plain" := by
  have hconfigured : AreDistinct [("X-A", "1"), ("x-b", "2")] := by decide
  have hcall : AreDistinct [("x-b", "3"), ("Accept", "text/plain")] := by decide
  obtain ⟨hmade, hlaw⟩ := @headers_prevail_by_spelling
    ⟨[], some ⟨"root", "secret"⟩, .standard, [("X-A", "1"), ("x-b", "2")], true, false⟩ _ hconfigured hcall
  have hplain : (Text.ofString "root" ++ Text.ofString "secret").all (fun p => !p.isSurrogate) = true := by decide
  obtain ⟨headers, hheaders⟩ := hmade.2 fun c hc p hp => by
    obtain rfl := Option.some.inj hc
    simpa using List.all_eq_true.1 hplain p hp
  -- the call names one header as it is configured, and no other one of those
  have halike : ResolvedSettings.SpellsAs
      ⟨[], some ⟨"root", "secret"⟩, .standard, [("X-A", "1"), ("x-b", "2")], true, false⟩
      [("x-b", "3"), ("Accept", "text/plain")] := ⟨by decide, by decide⟩
  obtain ⟨-, -, hdistinct, hlookup⟩ := hlaw headers hheaders
  refine ⟨headers, hheaders, hdistinct.2 halike, (hlookup halike _ _).2 ?_, (hlookup halike _ _).2 ?_,
    (hlookup halike _ _).2 ?_, (hlookup halike _ _).2 ?_⟩
  · exact .call (n := "x-b") (by decide) (by decide) (by decide)
  · exact .configured (n := "X-A") (by decide) (by decide) (by decide) (by decide)
  · exact .credentials (by decide) rfl header_of_root
  · exact .call (n := "Accept") (by decide) (by decide) (by decide)

/-- A configured header and credentials, and a configured header and one of the call, are not spelled alike: all four
are sent. -/
theorem headers_sent_in_two_spellings :
    ResolvedSettings.headersFor
        ⟨[], some ⟨"root", "secret"⟩, .standard, [("authorization", "Bearer t"), ("X-A", "1")], true, false⟩
        [("x-a", "2")] =
      .ok [("authorization", "Bearer t"), ("X-A", "1"), ("x-a", "2"), ("accept", "application/json"),
        ("Authorization", "Basic cm9vdDpzZWNyZXQ=")] ∧
      AreDistinct [("authorization", "Bearer t"), ("X-A", "1")] ∧ AreDistinct [("x-a", "2")] ∧
      ¬AreDistinct [("authorization", "Bearer t"), ("X-A", "1"), ("x-a", "2"), ("accept", "application/json"),
        ("Authorization", "Basic cm9vdDpzZWNyZXQ=")] := by
  refine ⟨ResolvedSettings.headersFor_eq_ok_iff.2 (.inr ⟨_, _, rfl, header_of_root, ?_⟩), ?_, ?_, ?_⟩ <;> decide

end ClusterClient
