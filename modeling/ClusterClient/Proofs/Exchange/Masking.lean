import ClusterClient.Console.Trace
import ClusterClient.Exchange.Transport

/-!
# What masks show of credentials

Credentials are masked before the headers of a request are traced. What stays visible of them is their
beginning: six octets and most of the seventh, and nothing of credentials that have no more than six. The
name of the user comes first, so that a name of six octets hides the password altogether.

## The architecture

* **`Base64.take_encode`**: the first letters of what is written come from the first octets
  (**`encode_inj`**: and say what they are).
* **`Mask.visible`**: what a mask shows of octets, and no more (**`credential_basic`**, **`shown_inj`**).
* **`Headers.mask_put`**, **`Text.encode_append`**: through the headers and the text of the credentials
  (**`maskedFor_signedBy`**).
* **`masks_show_the_beginning`**: the law.
-/

namespace ClusterClient

/-! ## The beginning of what is written -/

namespace Base64

theorem letter_inj {m n : Nat} (hm : m < 64) (hn : n < 64) (h : letter m = letter n) : m = n := by
  have hread := congrArg sixBits? h
  rw [sixBits?_letter hm, sixBits?_letter hn] at hread
  exact Option.some.inj hread

/-- Three octets, or what is left of three, take four letters. -/
theorem length_encode (octets : Octets) : (encode octets).length = 4 * ((octets.length + 2) / 3) := by
  induction octets using encode.induct with
  | case1 => simp [encode]
  | case2 a => simp [encode]
  | case3 a b => simp [encode]
  | case4 a b c rest ih =>
    simp only [encode, List.length_cons, ih]
    omega

/-- The letters of three octets say what they are: four letters stand for six bits each, and twenty-four bits
are three octets. -/
theorem group_inj {a b c a' b' c' : UInt8} {m n : Nat} (hm : m = a.toNat * 0x10000 + b.toNat * 0x100 + c.toNat)
    (hn : n = a'.toNat * 0x10000 + b'.toNat * 0x100 + c'.toNat)
    (h : letter (m / 0x40000) = letter (n / 0x40000))
    (h₁ : letter (m / 0x1000 % 0x40) = letter (n / 0x1000 % 0x40))
    (h₂ : letter (m / 0x40 % 0x40) = letter (n / 0x40 % 0x40)) (h₃ : letter (m % 0x40) = letter (n % 0x40)) :
    a = a' ∧ b = b' ∧ c = c' := by
  have ha := a.toNat_lt
  have hb := b.toNat_lt
  have hc := c.toNat_lt
  have ha' := a'.toNat_lt
  have hb' := b'.toNat_lt
  have hc' := c'.toNat_lt
  have e := letter_inj (by omega) (by omega) h
  have e₁ := letter_inj (by omega) (by omega) h₁
  have e₂ := letter_inj (by omega) (by omega) h₂
  have e₃ := letter_inj (by omega) (by omega) h₃
  refine ⟨UInt8.toNat_inj.1 ?_, UInt8.toNat_inj.1 ?_, UInt8.toNat_inj.1 ?_⟩ <;> omega

/-- The first letter comes from the first six bits of the first octet, whatever comes behind it and whether or
not the last group is padded. -/
theorem take_one_encode (a : UInt8) (rest : Octets) : (encode (a :: rest)).take 1 = [letter (a.toNat / 4)] := by
  -- the other octets of the group reach only the lower eighteen bits, and not the first letter
  have hbits (n : Nat) (hn : n < 0x10000) : (a.toNat * 0x10000 + n) / 0x40000 = a.toNat / 4 := by omega
  match rest with
  | [] => simp only [encode, List.take_succ_cons, List.take_zero, ← hbits 0 (by omega), Nat.add_zero]
  | [b] =>
    have hb := b.toNat_lt
    simp only [encode, List.take_succ_cons, List.take_zero, ← hbits (b.toNat * 0x100) (by omega)]
  | b :: c :: rest =>
    have hb := b.toNat_lt
    have hc := c.toNat_lt
    simp only [encode, List.take_succ_cons, List.take_zero, Nat.add_assoc,
      ← hbits (b.toNat * 0x100 + c.toNat) (by omega)]

/-- The first nine letters come from the first six octets and six bits of the seventh. -/
theorem take_encode {octets : Octets} {seventh : UInt8} (h : octets[6]? = some seventh) :
    (encode octets).take 9 = encode (octets.take 6) ++ [letter (seventh.toNat / 4)] := by
  match octets, h with
  | a :: b :: c :: d :: e :: f :: g :: rest, h =>
    obtain rfl := Option.some.inj h
    simp only [encode, List.take_succ_cons, List.take_zero, List.cons_append, List.nil_append,
      ← take_one_encode g rest]

/-- What is written of octets says what they are, once it is known how many they are. By induction on how they
are written, three at a time; the padding of the last group stands for zeros. -/
theorem encode_inj {octets octets' : Octets} (hlength : octets.length = octets'.length)
    (h : encode octets = encode octets') : octets = octets' := by
  induction octets using encode.induct generalizing octets' with
  | case1 => exact (List.length_eq_zero_iff.1 hlength.symm).symm
  | case2 a =>
    -- the padding stands for octets that are zero
    match octets', hlength with
    | [a'], _ =>
      simp only [encode, List.cons.injEq, and_true] at h
      have hthird : a.toNat * 0x10000 / 0x40 % 0x40 = a'.toNat * 0x10000 / 0x40 % 0x40 := by omega
      have hlast : a.toNat * 0x10000 % 0x40 = a'.toNat * 0x10000 % 0x40 := by omega
      have hnone (d : UInt8) :
          d.toNat * 0x10000 = d.toNat * 0x10000 + (0 : UInt8).toNat * 0x100 + (0 : UInt8).toNat := by simp
      obtain ⟨rfl, -⟩ := group_inj (hnone a) (hnone a') h.1 h.2 (congrArg letter hthird) (congrArg letter hlast)
      rfl
  | case3 a b =>
    match octets', hlength with
    | [a', b'], _ =>
      simp only [encode, List.cons.injEq, and_true] at h
      have hlast : (a.toNat * 0x10000 + b.toNat * 0x100) % 0x40 =
          (a'.toNat * 0x10000 + b'.toNat * 0x100) % 0x40 := by omega
      have hnone (d e : UInt8) : d.toNat * 0x10000 + e.toNat * 0x100 =
          d.toNat * 0x10000 + e.toNat * 0x100 + (0 : UInt8).toNat := by simp
      obtain ⟨rfl, rfl, -⟩ := group_inj (hnone a b) (hnone a' b') h.1 h.2.1 h.2.2 (congrArg letter hlast)
      rfl
  | case4 a b c rest ih =>
    match octets', hlength with
    | a' :: b' :: c' :: rest', hlength =>
      simp only [encode, List.cons.injEq] at h
      obtain ⟨h, h₁, h₂, h₃, hrest⟩ := h
      obtain ⟨rfl, rfl, rfl⟩ := group_inj rfl rfl h h₁ h₂ h₃
      rw [ih (by simpa using hlength) hrest]

end Base64

/-! ## What a mask shows -/

namespace Mask

/-- What a mask shows of credentials in octets: six octets and the first six bits of the seventh, and
nothing unless there are that many. -/
def visible (octets : Octets) : Option (Octets × Nat) :=
  octets[6]?.map fun seventh => (octets.take 6, seventh.toNat / 4)

/-- Seven octets hide what comes after them. -/
theorem visible_append {front : Octets} (h : 7 ≤ front.length) (octets : Octets) :
    visible (front ++ octets) = visible front := by
  have hseventh : (front ++ octets)[6]? = front[6]? := List.getElem?_append_left (by omega)
  rw [visible, visible, hseventh, List.take_append_of_le_length (by omega)]

theorem visible_of_few {octets : Octets} (h : octets.length ≤ 6) : visible octets = none := by
  rw [visible, List.getElem?_eq_none h]
  rfl

/-- Credentials behind their mask. -/
def shown : Option (Octets × Nat) → Text
  | none => "Basic ***"
  | some (front, bits) => "Basic " ++ (Base64.encode front ++ [Base64.letter bits]) ++ "***"

/-- **A mask shows what is visible of credentials**, and nothing else. Up to six octets make so few letters that
nothing is shown; from the seventh on it is the first nine letters behind the scheme. -/
theorem credential_basic (octets : Octets) :
    credential credentialVisible ("Basic " ++ Base64.encode octets) = shown (visible octets) := by
  have hlength : ("Basic " ++ Base64.encode octets : Text).length = 6 + 4 * ((octets.length + 2) / 3) := by
    rw [List.length_append, Base64.length_encode]
    rfl
  have hempty : List.isEmpty ("Basic " ++ Base64.encode octets : Text) = false := rfl
  rw [credential, hempty, if_neg Bool.false_ne_true, hlength]
  unfold visible
  cases hseventh : octets[6]? with
  | none =>
    have hfew := List.getElem?_eq_none_iff.1 hseventh
    -- six octets make fourteen letters with the scheme, and fifteen would still be short
    rw [if_pos (by simp only [credentialVisible]; omega)]
    rfl
  | some seventh =>
    obtain ⟨hmany, -⟩ := List.getElem?_eq_some_iff.1 hseventh
    -- seven octets make eighteen, of which nine of the credentials stay visible
    rw [if_neg (by simp only [credentialVisible]; omega)]
    have hfront : ("Basic " ++ Base64.encode octets : Text).take 15 =
        "Basic " ++ (Base64.encode octets).take 9 := rfl
    show ("Basic " ++ Base64.encode octets : Text).take 15 ++ "***" = _
    rw [hfront, Base64.take_encode hseventh]
    rfl

/-- A mask gives away all that is visible: what looks alike behind a mask begins alike. The lengths tell whether
anything is visible at all, and the letters in between say which octets. -/
theorem shown_inj {octets octets' : Octets} (h : shown (visible octets) = shown (visible octets')) :
    visible octets = visible octets' := by
  have hsome {octets front : Octets} {bits : Nat} (h : visible octets = some (front, bits)) :
      front.length = 6 ∧ bits < 64 := by
    obtain ⟨seventh, hseventh, hfront⟩ := Option.map_eq_some_iff.1 h
    obtain ⟨hmany, -⟩ := List.getElem?_eq_some_iff.1 hseventh
    obtain ⟨rfl, rfl⟩ := Prod.mk.inj hfront
    have hlt := seventh.toNat_lt
    exact ⟨by rw [List.length_take]; omega, by omega⟩
  have hlength {octets front : Octets} {bits : Nat} (h : visible octets = some (front, bits)) :
      (shown (visible octets)).length = 18 := by
    rw [h]
    simp only [shown, List.length_append, Base64.length_encode, (hsome h).1]
    rfl
  have hnone {octets : Octets} (h : visible octets = none) : (shown (visible octets)).length = 9 := by
    rw [h]
    rfl
  -- what is shown of few octets is shorter
  have hlengths := congrArg List.length h
  cases hv : visible octets with
  | none =>
    cases hv' : visible octets' with
    | none => rfl
    | some v => rw [hnone hv, hlength hv'] at hlengths; omega
  | some v =>
    cases hv' : visible octets' with
    | none => rw [hlength hv, hnone hv'] at hlengths; omega
    | some v' =>
      obtain ⟨front, bits⟩ := v
      obtain ⟨front', bits'⟩ := v'
      rw [hv, hv', shown, shown, List.append_cancel_right_eq, List.append_cancel_left_eq] at h
      obtain ⟨hencoded, hlast⟩ := List.append_inj' h rfl
      obtain ⟨hfront, hbits⟩ := hsome hv
      obtain ⟨hfront', hbits'⟩ := hsome hv'
      rw [Base64.encode_inj (hfront.trans hfront'.symm) hencoded,
        Base64.letter_inj hbits hbits' (List.head_eq_of_cons_eq hlast)]

end Mask

/-! ## Through the headers -/

namespace Headers

theorem put_inj {name value value' : Text} {headers : Headers}
    (h : headers.put name value = headers.put name value') : value = value' := by
  induction headers with
  | nil => simpa [put] using h
  | cons header rest ih =>
    obtain ⟨other, v⟩ := header
    rw [put, put] at h
    split at h
    · simpa using h
    · exact ih (List.cons.inj h).2

/-- What is traced of the value of a header. -/
def traced (name value : Text) : Text :=
  if Mask.sensitiveNames.contains name.toLower then Mask.credential Mask.credentialVisible value else value

theorem mask_cons (name value : Text) (rest : Headers) :
    Mask.headers ((name, value) :: rest) = (name, traced name value) :: Mask.headers rest := by
  simp only [Mask.headers, List.map_cons, traced]
  split <;> rfl

/-- Masking goes through to the value of a header that is put. -/
theorem mask_put (name value : Text) (headers : Headers) :
    Mask.headers (headers.put name value) = (Mask.headers headers).put name (traced name value) := by
  induction headers with
  | nil => exact mask_cons name value []
  | cons header rest ih =>
    obtain ⟨other, v⟩ := header
    rw [mask_cons, put, put]
    split
    · next hsame => rw [hsame, mask_cons]
    · rw [mask_cons, ih]

end Headers

namespace Text

/-- Text that can be written adds its octets to those of what comes before, or to nothing. If what comes before
cannot be written, the fault is the same: its position and its run of code points lie in front of the text that
is added. -/
theorem encode_append {codec : Codec} {t : Text} {octets : Octets} (h : t.encode codec = .ok octets)
    (s : Text) : (s ++ t).encode codec = (· ++ octets) <$> s.encode codec := by
  have ht := of_encode h
  have hoctets : t.flatMap CodePoint.utf8 = octets := Except.ok.inj ((encode_of_forall ht).symm.trans h)
  have hnone : t.takeWhile codec.lacks = [] := by
    cases t with
    | nil => rfl
    | cons c t => rw [List.takeWhile_cons, ht c List.mem_cons_self, if_neg Bool.false_ne_true]
  have hsplit := breakAt_append codec.lacks s
  cases hback : (s.breakAt codec.lacks).2 with
  | nil =>
    have hs : ∀ c ∈ s, codec.lacks c = false := fun c hc => by
      rw [hback, List.append_nil] at hsplit
      exact not_of_mem_breakAt_fst (hsplit ▸ hc)
    have hall : ∀ c ∈ s ++ t, codec.lacks c = false := fun c hc => (List.mem_append.1 hc).elim (hs c) (ht c)
    rw [encode_of_forall hs, encode_of_forall hall, List.flatMap_append, hoctets]
    rfl
  | cons d back =>
    have hfront : ∀ c ∈ (s.breakAt codec.lacks).1, codec.lacks c = false := fun c hc =>
      not_of_mem_breakAt_fst hc
    have hd : codec.lacks d = true := by
      have hhead := List.head?_dropWhile_not (fun c => !codec.lacks c) s
      rw [show s.dropWhile (fun c => !codec.lacks c) = d :: back from hback] at hhead
      simpa using hhead
    have hbreak : breakAt codec.lacks (s ++ t) = ((s.breakAt codec.lacks).1, d :: back ++ t) := by
      have happend : s ++ t = (s.breakAt codec.lacks).1 ++ (d :: back ++ t) := by
        rw [← List.append_assoc, ← hback, hsplit]
      rw [happend]
      refine breakAt_append_of hfront fun c hc => ?_
      obtain rfl := Option.some.inj hc
      exact hd
    -- the run of code points without octets ends where the second text begins, if not before
    have hrun : (d :: back ++ t).takeWhile codec.lacks = (d :: back).takeWhile codec.lacks := by
      rw [List.takeWhile_append, hnone, List.append_nil]
      split
      · next hall => rw [(List.takeWhile_prefix codec.lacks).eq_of_length hall]
      · rfl
    have hpair : s.breakAt codec.lacks = ((s.breakAt codec.lacks).1, d :: back) := by rw [← hback]
    rw [encode, encode, hbreak, hpair]
    simp only [List.cons_append] at hrun ⊢
    rw [hrun]
    rfl

end Text

/-- The header that carries credentials holds the octets of the name, a colon and the octets of the password. -/
theorem Credentials.header_eq {password : Text} {octets : Octets} (h : password.encode .utf8 = .ok octets)
    (username : Text) : (⟨username, password⟩ : Credentials).header =
      (fun name => "Basic " ++ Base64.encode (name ++ 0x3A :: octets)) <$> username.encode .utf8 := by
  have hcolon : (":" : Text).encode .utf8 = .ok [0x3A] := rfl
  have hjoined : (⟨username, password⟩ : Credentials).joined.encode .utf8 =
      (fun name => name ++ 0x3A :: octets) <$> username.encode .utf8 := by
    show (username ++ ":" ++ password).encode .utf8 = _
    rw [Text.encode_append h, Text.encode_append hcolon]
    cases username.encode .utf8 with
    | error e => rfl
    | ok name => exact congrArg Except.ok (List.append_assoc name [0x3A] octets)
  rw [header, hjoined]
  cases username.encode .utf8 <;> rfl

namespace ResolvedSettings

/-- Settings of a user of this name and this password. -/
def signedBy (s : ResolvedSettings) (username password : Text) : ResolvedSettings :=
  { s with credentials := some ⟨username, password⟩ }

/-- The headers of a request as they are traced. -/
def maskedFor (s : ResolvedSettings) (call : Headers) : Except Unencodable Headers :=
  Mask.headers <$> s.headersFor call

/-- The trace of a request as it is made: what is printed of it, and what stops it, if anything does. -/
def tracedFor (s : ResolvedSettings) (call : Headers) (room : Room) (width : Nat) (method url : Text)
    (body : Octets) : Except Unencodable Console.Printed :=
  (fun headers => Console.Trace.request room width method url headers body) <$> s.headersFor call

/-- Settings of one member, by which requests are traced. -/
def ofOne : ResolvedSettings := ⟨[⟨"http://etcd1:2379"⟩], none, .standard, [], true, true⟩

variable {s s' : ResolvedSettings} {password : Text} {octets : Octets}

/-- **The headers of a request as they are traced**: those of the settings and of the call, masked, and behind
them what the mask shows of the name, a colon and the password. That takes a password that has octets; a name
that has none fails before anything is traced. -/
theorem maskedFor_signedBy (h : password.encode .utf8 = .ok octets) (s : ResolvedSettings) (username : Text)
    (call : Headers) :
    (s.signedBy username password).maskedFor call =
      (fun name => (Mask.headers (s.headers.merge call).withAccept).put Headers.authorizationName
        (Mask.shown (Mask.visible (name ++ 0x3A :: octets)))) <$> username.encode .utf8 := by
  have hname : Mask.sensitiveNames.contains Headers.authorizationName.toLower = true := by decide
  have hheaders : (s.signedBy username password).headersFor call =
      ((s.headers.merge call).withAccept.put Headers.authorizationName ·) <$>
        (⟨username, password⟩ : Credentials).header := rfl
  rw [maskedFor, hheaders, Credentials.header_eq h]
  cases username.encode .utf8 with
  | error e => rfl
  | ok name =>
    show Except.ok (Mask.headers (Headers.put _ _ _)) = Except.ok _
    rw [Headers.mask_put, Headers.traced, if_pos hname, Mask.credential_basic]

/-- A trace shows no more of the headers than their masks do. If there are no headers, both fail to be made in
the same way. -/
theorem tracedFor_of_maskedFor {call call' : Headers} (h : s.maskedFor call = s'.maskedFor call') (room : Room)
    (width : Nat) (method url : Text) (body : Octets) :
    s.tracedFor call room width method url body = s'.tracedFor call' room width method url body := by
  unfold maskedFor at h
  unfold tracedFor
  cases hheaders : s.headersFor call with
  | error e =>
    cases hheaders' : s'.headersFor call' with
    | error e' => rw [hheaders, hheaders'] at h; cases h; rfl
    | ok headers' => rw [hheaders, hheaders'] at h; cases h
  | ok headers =>
    cases hheaders' : s'.headersFor call' with
    -- only here there are headers on both sides
    | error e' => rw [hheaders, hheaders'] at h; cases h
    | ok headers' =>
      rw [hheaders, hheaders'] at h
      have hmasks : Mask.headers headers = Mask.headers headers' := Except.ok.inj h
      show Except.ok (Console.Trace.request _ _ _ _ _ _) = Except.ok (Console.Trace.request _ _ _ _ _ _)
      simp only [Console.Trace.request, hmasks]

/-- **Traced headers show the beginning of the credentials and nothing else.** For two passwords of the same
number of octets, they are the same exactly if the first six octets of name, colon and password, and the
first six bits of the seventh, are; and then so is everything else that is traced of a request. A name of
six octets is all that they show, and of credentials of no more than six octets they show nothing. -/
theorem masks_show_the_beginning (s : ResolvedSettings) (username password password' : Text) (call : Headers)
    (octets octets' : Octets) (hpassword : password.encode .utf8 = .ok octets)
    (hpassword' : password'.encode .utf8 = .ok octets') (hlength : octets.length = octets'.length) :
    ((s.signedBy username password).maskedFor call = (s.signedBy username password').maskedFor call ↔
      ∀ name, username.encode .utf8 = .ok name →
        Mask.visible (name ++ 0x3A :: octets) = Mask.visible (name ++ 0x3A :: octets')) ∧
    ((s.signedBy username password).maskedFor call = (s.signedBy username password').maskedFor call →
      ∀ room width method url body, (s.signedBy username password).tracedFor call room width method url body =
        (s.signedBy username password').tracedFor call room width method url body) ∧
    (∀ name, username.encode .utf8 = .ok name → 6 ≤ name.length ∨ name.length + 1 + octets.length ≤ 6 →
      (s.signedBy username password).maskedFor call = (s.signedBy username password').maskedFor call) := by
  have hiff : (s.signedBy username password).maskedFor call = (s.signedBy username password').maskedFor call ↔
      ∀ name, username.encode .utf8 = .ok name →
        Mask.visible (name ++ 0x3A :: octets) = Mask.visible (name ++ 0x3A :: octets') := by
    rw [maskedFor_signedBy hpassword, maskedFor_signedBy hpassword']
    cases username.encode .utf8 with
    | error e => exact ⟨fun _ _ => nofun, fun _ => rfl⟩
    | ok name =>
      refine ⟨fun h name' hname => ?_, fun h => ?_⟩
      · obtain rfl := Except.ok.inj hname
        exact Mask.shown_inj (Headers.put_inj (Except.ok.inj h))
      · exact congrArg (fun visible => Except.ok ((Mask.headers (s.headers.merge call).withAccept).put
          Headers.authorizationName (Mask.shown visible))) (h name rfl)
  refine ⟨hiff, fun h => tracedFor_of_maskedFor h, fun name hname henough => hiff.2 fun name' hname' => ?_⟩
  obtain rfl := Except.ok.inj (hname.symm.trans hname')
  obtain hlong | hfew := henough
  -- the name and the colon fill what is visible
  · have hfront : 7 ≤ (name ++ [0x3A]).length := by simpa using hlong
    have hvisible (octets : Octets) :
        Mask.visible (name ++ 0x3A :: octets) = Mask.visible (name ++ [0x3A]) := by
      rw [← Mask.visible_append hfront octets, List.append_assoc, List.singleton_append]
    rw [hvisible octets, hvisible octets']
  · have hnone {octets : Octets} (hfew : name.length + 1 + octets.length ≤ 6) :
        Mask.visible (name ++ 0x3A :: octets) = none :=
      Mask.visible_of_few (by rw [List.length_append, List.length_cons]; omega)
    rw [hnone hfew, hnone (hlength ▸ hfew)]

/-- A name of seven octets hides the password, and one of four does not. -/
theorem masks_show_the_beginning_of_two_names :
    ("secret" : Text).encode .utf8 = .ok [0x73, 0x65, 0x63, 0x72, 0x65, 0x74] ∧
      ("hunter" : Text).encode .utf8 = .ok [0x68, 0x75, 0x6E, 0x74, 0x65, 0x72] ∧
      ("backup1" : Text).encode .utf8 = .ok [0x62, 0x61, 0x63, 0x6B, 0x75, 0x70, 0x31] ∧
      (ofOne.signedBy "backup1" "secret").maskedFor [] = (ofOne.signedBy "backup1" "hunter").maskedFor [] ∧
      (ofOne.signedBy "backup1" "secret").tracedFor [] .usual 100 "GET" "http://etcd1:2379/v2/keys/foo" [] =
        (ofOne.signedBy "backup1" "hunter").tracedFor [] .usual 100 "GET" "http://etcd1:2379/v2/keys/foo" [] ∧
      ("root" : Text).encode .utf8 = .ok [0x72, 0x6F, 0x6F, 0x74] ∧
      (ofOne.signedBy "root" "secret").maskedFor [] ≠ (ofOne.signedBy "root" "hunter").maskedFor [] := by
  have hsecret : ("secret" : Text).encode .utf8 = .ok [0x73, 0x65, 0x63, 0x72, 0x65, 0x74] := rfl
  have hhunter : ("hunter" : Text).encode .utf8 = .ok [0x68, 0x75, 0x6E, 0x74, 0x65, 0x72] := rfl
  have hbackup : ("backup1" : Text).encode .utf8 = .ok [0x62, 0x61, 0x63, 0x6B, 0x75, 0x70, 0x31] := rfl
  have hroot : ("root" : Text).encode .utf8 = .ok [0x72, 0x6F, 0x6F, 0x74] := rfl
  obtain ⟨-, htraced, henough⟩ :=
    masks_show_the_beginning ofOne "backup1" "secret" "hunter" [] _ _ hsecret hhunter rfl
  have hmasked := henough _ hbackup (.inl (by decide))
  obtain ⟨hiff, -, -⟩ := masks_show_the_beginning ofOne "root" "secret" "hunter" [] _ _ hsecret hhunter rfl
  refine ⟨hsecret, hhunter, hbackup, hmasked, htraced hmasked _ _ _ _ _, hroot, fun hsame => ?_⟩
  exact absurd (hiff.1 hsame _ hroot) (by decide)

/-- Two passwords of six octets, of which the traced headers show the first two. -/
theorem masks_show_passwords_of_root :
    ("secret" : Text).encode .utf8 = .ok [0x73, 0x65, 0x63, 0x72, 0x65, 0x74] ∧
      ("hunter" : Text).encode .utf8 = .ok [0x68, 0x75, 0x6E, 0x74, 0x65, 0x72] ∧
      ((ofOne.signedBy "root" "secret").maskedFor []).toOption.bind (·.lookup? "Authorization") =
        some (Text.ofString "Basic cm9vdDpzZ***") ∧
      ((ofOne.signedBy "root" "hunter").maskedFor []).toOption.bind (·.lookup? "Authorization") =
        some (Text.ofString "Basic cm9vdDpod***") ∧
      (ofOne.signedBy "root" "secret").maskedFor [] ≠ (ofOne.signedBy "root" "hunter").maskedFor [] := by
  have hsecret : ((ofOne.signedBy "root" "secret").maskedFor []).toOption.bind (·.lookup? "Authorization") =
      some (Text.ofString "Basic cm9vdDpzZ***") := by decide +kernel
  have hhunter : ((ofOne.signedBy "root" "hunter").maskedFor []).toOption.bind (·.lookup? "Authorization") =
      some (Text.ofString "Basic cm9vdDpod***") := by decide +kernel
  refine ⟨rfl, rfl, hsecret, hhunter, fun hsame => ?_⟩
  rw [hsame, hhunter] at hsecret
  exact absurd hsecret (by decide)

end ResolvedSettings

end ClusterClient
