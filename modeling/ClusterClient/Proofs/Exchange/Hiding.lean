import ClusterClient.Proofs.Exchange.Masking

/-!
# What a mask hides

A masked credential is its beginning and three asterisks behind it. What is masked well does not hold the
credential any more; but a credential that is no longer than what stays visible is there as a whole, and so
is one that goes on with asterisks itself.

## The architecture

* **`Mask.credential_eq`**: the two lengths at which a credential is cut, as one (`Mask.reach`).
* **`infix_take_append_replicate`**: a text is found again behind its own beginning only if it stands at the
  very front, whatever is repeated there.
* **`masks_give_away_what_they_do_not_hide`**: names, order and other values stay, and exactly which values
  can be read off their masks.
-/

namespace ClusterClient

/-- Behind its own first elements, a list is found again in a run of one element only if the run goes on as
the list does. -/
theorem infix_take_append_replicate {α : Type} {l : List α} {k n : Nat} {a : α} :
    l <:+: l.take k ++ List.replicate n a ↔ l.drop k <+: List.replicate n a := by
  constructor
  · rintro ⟨before, behind, h⟩
    by_cases hlong : k ≤ l.length
    · -- wherever the list is found, what lies behind its first elements falls into the run
      have hrun : l.drop k ++ behind = List.replicate (n - before.length) a := by
        have hdrop := congrArg (List.drop (before.length + k)) h
        have hlength : (l.take k).length = k := List.length_take_of_le hlong
        rw [List.append_assoc, ← List.drop_drop, List.drop_left, List.drop_append_of_le_length hlong,
          Nat.add_comm, ← List.drop_drop, List.drop_left' hlength, List.drop_replicate] at hdrop
        exact hdrop
      have hprefix : l.drop k <+: List.replicate (n - before.length) a := ⟨behind, hrun⟩
      refine hprefix.trans ?_
      rw [List.prefix_iff_eq_take, List.take_replicate, List.length_replicate, Nat.min_eq_left (Nat.sub_le n _)]
    · rw [List.drop_of_length_le (Nat.le_of_not_le hlong)]
      exact List.nil_prefix
  · rintro ⟨behind, h⟩
    -- the list stands at the beginning: what is cut off comes again out of the run
    refine ⟨[], behind, ?_⟩
    rw [List.nil_append, ← h, ← List.append_assoc, List.take_append_drop]

namespace Mask

/-- The name belongs to a header that holds a credential, in whatever letter case. -/
def IsSensitive (name : Text) : Prop := name.toLower ∈ sensitiveNames

instance (name : Text) : Decidable (IsSensitive name) := inferInstanceAs (Decidable (_ ∈ _))

/-- What stands for the hidden part of a credential. -/
def veil : Text := "***"

/-- How many code points of a credential stay visible. -/
def reach (value : Text) : Nat := if value.length ≤ 15 then 6 else 15

/-- The part of a credential that does not stay visible. -/
def hidden (value : Text) : Text := value.drop (reach value)

/-- **A masked value is its visible beginning and the veil.** How far one sees is the only thing that depends on
the length. -/
theorem credential_eq {value : Text} (h : value ≠ []) :
    credential credentialVisible value = value.take (reach value) ++ veil := by
  have hvisible : (value.length : Int) ≤ credentialVisible ↔ value.length ≤ 15 := by
    rw [show credentialVisible = ((15 : Nat) : Int) from rfl, Int.ofNat_le]
  unfold credential reach
  rw [if_neg fun hempty => h (List.isEmpty_iff.1 hempty)]
  by_cases hshort : value.length ≤ 15
  · rw [if_pos (hvisible.2 hshort), if_pos hshort]
    rfl
  · rw [if_neg fun hle => hshort (hvisible.1 hle), if_neg hshort]
    rfl

/-- **A credential can be read off its mask exactly if all that is hidden of it are asterisks**, of which
there are three at most. -/
theorem infix_credential_iff {value : Text} (h : value ≠ []) :
    value <:+: credential credentialVisible value ↔ hidden value <+: veil := by
  rw [credential_eq h]
  exact infix_take_append_replicate (n := 3)

end Mask

theorem Headers.traced_of_isSensitive {name : Text} (h : Mask.IsSensitive name) (value : Text) :
    traced name value = Mask.credential Mask.credentialVisible value :=
  if_pos (List.contains_iff_mem.2 h)

theorem Headers.traced_of_not_isSensitive {name : Text} (h : ¬Mask.IsSensitive name) (value : Text) :
    traced name value = value :=
  if_neg fun hname => h (List.contains_iff_mem.1 hname)

/-- Masking goes through the headers one by one, and keeps their names and their order. -/
theorem Mask.headers_eq_map (headers : Headers) :
    Mask.headers headers = headers.map fun header => (header.1, Headers.traced header.1 header.2) := by
  induction headers with
  | nil => rfl
  | cons header rest ih => rw [Headers.mask_cons, ih, List.map_cons]

/-- **Masked headers keep their names, their order and every value that is no credential.** The mask of a
credential holds the credential itself exactly if all that is hidden of it are up to three asterisks; so it
is if nothing is hidden, with up to six code points. -/
theorem masks_give_away_what_they_do_not_hide (headers : Headers) :
    (Mask.headers headers).map Prod.fst = headers.map Prod.fst ∧
      ∀ (position : Nat) (name value : Text), headers[position]? = some (name, value) →
        ∃ masked, (Mask.headers headers)[position]? = some (name, masked) ∧
          (¬Mask.IsSensitive name → masked = value) ∧
          (Mask.IsSensitive name → value ≠ [] → (value <:+: masked ↔ Mask.hidden value <+: Mask.veil)) := by
  rw [Mask.headers_eq_map]
  refine ⟨List.map_map, fun position name value hvalue => ⟨Headers.traced name value, ?_, ?_, ?_⟩⟩
  · rw [List.getElem?_map, hvalue]
    rfl
  · exact fun hname => Headers.traced_of_not_isSensitive hname value
  · intro hname hne
    rw [Headers.traced_of_isSensitive hname]
    exact Mask.infix_credential_iff hne

/-- Credentials of both lengths that are cut: one of which octets are hidden, and one of which asterisks are. -/
theorem masks_give_away_what_they_do_not_hide_of_two :
    Mask.headers [("accept", "text/plain"), ("AUTHORIZATION", "Basic cm9vdDpzZWNyZXQ="), ("X-Api-Key", "secret**")] =
        ([("accept", "text/plain"), ("AUTHORIZATION", "Basic cm9vdDpzZ***"), ("X-Api-Key", "secret***")] : Headers) ∧
      ¬("Basic cm9vdDpzZWNyZXQ=" : Text) <:+: "Basic cm9vdDpzZ***" ∧
      ("secret**" : Text) <:+: "secret***" := by
  have hmasked : Mask.headers
      [("accept", "text/plain"), ("AUTHORIZATION", "Basic cm9vdDpzZWNyZXQ="), ("X-Api-Key", "secret**")] =
      ([("accept", "text/plain"), ("AUTHORIZATION", "Basic cm9vdDpzZ***"), ("X-Api-Key", "secret***")] : Headers) := by
    decide
  obtain ⟨-, heach⟩ := masks_give_away_what_they_do_not_hide
    [("accept", "text/plain"), ("AUTHORIZATION", "Basic cm9vdDpzZWNyZXQ="), ("X-Api-Key", "secret**")]
  obtain ⟨basic, hbasic, -, hlong⟩ := heach 1 "AUTHORIZATION" "Basic cm9vdDpzZWNyZXQ=" rfl
  obtain ⟨key, hkey, -, hshort⟩ := heach 2 "X-Api-Key" "secret**" rfl
  rw [hmasked] at hbasic hkey
  obtain rfl := congrArg Prod.snd (Option.some.inj hbasic)
  obtain rfl := congrArg Prod.snd (Option.some.inj hkey)
  refine ⟨hmasked, fun hinfix => ?_, (hshort (by decide) (by decide)).2 (by decide)⟩
  exact absurd ((hlong (by decide) (by decide)).1 hinfix) (by decide)

/-- A key of six code points is masked by nothing but what is put behind it. -/
theorem short_credential_stays_visible :
    Mask.IsSensitive "x-api-key" ∧
      Mask.headers [("x-api-key", "secret")] = ([("x-api-key", "secret***")] : Headers) ∧
      ("secret" : Text) <:+: "secret***" := by
  exact ⟨by decide, by decide, by decide⟩

end ClusterClient
