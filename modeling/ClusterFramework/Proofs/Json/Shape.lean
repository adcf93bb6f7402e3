import ClusterFramework.Json.Shape
import ClusterFramework.Proofs.Dictionary
import ClusterFramework.Proofs.Json.RoundTrip

/-! A structure's members are found again under their names, whichever of them are left out,
and each kind of member reads as the value it was written for. -/
namespace ClusterFramework
namespace Json

/-- The members that are present, under their names. -/
def written (fields : List (String × Option Json)) : List (Option String × Json) :=
  fields.filterMap fun f => f.2.map (some f.1,·)

theorem written_append (fs gs : List (String × Option Json)) :
    written (fs ++ gs) = written fs ++ written gs := List.filterMap_append

/-- What an array of the elements is, if there are some. -/
def listed {α : Type} (f : α → Json) (xs : List α) : Option Json :=
  if xs.isEmpty then none else some (array (xs.map f))

def listedTexts (d : Dictionary String) : Option Json :=
  if d.isEmpty then none else some (ofTexts d)

theorem member_eq_written {α : Type} (name : String) (f : α → Json) (a : α) :
    member name f a = written [(name,some (f a))] := rfl

theorem optionalMember_eq_written {α : Type} (name : String) (f : α → Json) (o : Option α) :
    optionalMember name f o = written [(name,o.map f)] := by
  cases o <;> rfl

theorem listMember_eq_written {α : Type} (name : String) (f : α → Json) (xs : List α) :
    listMember name f xs = written [(name,listed f xs)] := by
  cases xs <;> rfl

theorem textsMember_eq_written (name : String) (d : Dictionary String) :
    textsMember name d = written [(name,listedTexts d)] := by
  unfold textsMember listedTexts
  split <;> rfl

theorem mem_written {fields : List (String × Option Json)} {m : Option String × Json} :
    m ∈ written fields ↔ ∃ f ∈ fields, f.2 = some m.2 ∧ m.1 = some f.1 := by
  obtain ⟨k,v⟩ := m
  simp only [written,List.mem_filterMap,Option.map_eq_some_iff,Prod.mk.injEq]
  constructor
  · rintro ⟨f,hf,w,hw,rfl,rfl⟩
    exact ⟨f,hf,hw,rfl⟩
  · rintro ⟨f,hf,hw,rfl⟩
    exact ⟨f,hf,v,hw,rfl,rfl⟩

/-- No name is written more often than it is listed. -/
theorem countP_written_le (fields : List (String × Option Json)) (n : String) :
    (written fields).countP (fun m => m.1 = some n) ≤ (fields.map Prod.fst).count n := by
  rw [written,List.countP_filterMap,List.count,List.countP_map]
  refine List.countP_mono_left fun f _ => ?_
  cases f.2 <;> simp

theorem find?_written_of_not_mem {fields : List (String × Option Json)} {n : String}
    (h : n ∉ fields.map Prod.fst) : ((written fields).find? fun m => m.1 = some n) = none := by
  rw [List.find?_eq_none]
  intro m hm hn
  obtain ⟨f,hf,_,hk⟩ := mem_written.mp hm
  rw [decide_eq_true_eq,hk,Option.some.injEq] at hn
  exact h (hn ▸ List.mem_map_of_mem hf)

theorem find?_written {fields : List (String × Option Json)} (h : (fields.map Prod.fst).Nodup)
    {f : String × Option Json} (hf : f ∈ fields) :
    ((written fields).find? fun m => m.1 = some f.1).map Prod.snd = f.2 := by
  induction fields with
  | nil => cases hf
  | cons g gs ih =>
    obtain ⟨hg,hgs⟩ := List.nodup_cons.mp h
    rw [← List.singleton_append,written_append,List.find?_append]
    rcases List.mem_cons.mp hf with rfl | hf
    · rw [find?_written_of_not_mem hg,Option.or_none,written]
      cases hv : f.2 <;> simp [hv]
    · have hne : g.1 ∉ [f.1] := fun hm =>
        hg (List.mem_singleton.mp hm ▸ List.mem_map_of_mem hf)
      rw [find?_written_of_not_mem (by simpa [eq_comm] using hne),Option.none_or,ih hgs hf]

theorem members?_written {names : List String} {fields : List (String × Option Json)}
    (hnames : fields.map Prod.fst = names) (h : names.Nodup) :
    members? names (object (written fields)) = some (fields.map Prod.snd) := by
  subst hnames
  have hkeys : (written fields).all fun m => m.1.isSome := by
    rw [List.all_eq_true]
    intro m hm
    obtain ⟨f,_,_,hk⟩ := mem_written.mp hm
    rw [hk,Option.isSome_some]
  have honce : (fields.map Prod.fst).all fun n =>
      (written fields).countP (fun m => m.1 = some n) ≤ 1 := by
    simp only [List.all_eq_true,decide_eq_true_eq]
    exact fun n _ => (countP_written_le fields n).trans (List.nodup_iff_count_le_one.mp h n)
  rw [members?,if_pos ⟨hkeys,honce⟩,List.map_map]
  exact congrArg some (List.map_congr_left fun f hf => find?_written h hf)

theorem printable_written {fields : List (String × Option Json)}
    (h : ∀ f ∈ fields, ∀ v ∈ f.2, v.Printable) : (object (written fields)).Printable := by
  refine .object (fun m hm => ?_) fun m hm => ?_
  · obtain ⟨f,_,_,hk⟩ := mem_written.mp hm
    rw [hk,Option.isSome_some]
  · obtain ⟨f,hf,hv,_⟩ := mem_written.mp hm
    exact h f hf m.2 hv

/-- What is written for a value is printed whole and read as that value. -/
structure Faithful {α : Type} (read? : Json → Option α) (write : α → Json) (a : α) : Prop where
  printable : (write a).Printable
  reads : read? (write a) = some a

theorem faithful_text (s : String) : Faithful string? ofText s := ⟨.string s,rfl⟩

theorem faithful_bool (b : Bool) : Faithful bool? bool b := ⟨.bool b,rfl⟩

theorem printable_ofNat (n : Nat) : (ofNat n).Printable :=
  .number (Numeral.spelled_ofNat n) (Numeral.not_leadingZero_ofNat n)

theorem faithful_word32 (w : UInt32) : Faithful word32? (fun w => ofNat w.toNat) w := by
  refine ⟨printable_ofNat _,?_⟩
  simp [word32?,natural?,ofNat,Option.filter_some,w.toNat_lt_size]

theorem faithful_word64 (w : UInt64) : Faithful word64? (fun w => ofNat w.toNat) w := by
  refine ⟨printable_ofNat _,?_⟩
  simp [word64?,natural?,ofNat,Option.filter_some,w.toNat_lt_size]

theorem faithful_choice {α : Type} {names : List (String × α)} {name : α → String} {a : α}
    (h : names.lookup (name a) = some a) :
    Faithful (choice? names) (fun a => ofText (name a)) a := ⟨.string _,h⟩

/-- The printed form of a number is read as that number. -/
def ReadsBack (x : Binary64) : Prop :=
  (parse? (number (x.numeral .document)).print).bind double? = some x

instance (x : Binary64) : Decidable (ReadsBack x) := inferInstanceAs (Decidable (_ = _))

/-- A numeral that can be read has no leading zero. -/
theorem printable_of_parse?_print {n : Numeral} (h : n.Spelled)
    (hp : (parse? (number n).print).isSome) : (number n).Printable := by
  refine .number h fun hz => ?_
  rw [parse?_print_of_leadingZero h hz] at hp
  cases hp

theorem faithful_double {x : Binary64} (hf : x.isFinite) (hr : ReadsBack x) :
    Faithful double? ofDouble x := by
  rw [ReadsBack] at hr
  have hsome : (parse? (number (x.numeral .document)).print).isSome := by
    obtain ⟨v,hv,_⟩ := Option.bind_eq_some_iff.mp hr
    rw [hv,Option.isSome_some]
  have hp := printable_of_parse?_print (Binary64.spelled_numeral .document x) hsome
  have ho : ofDouble x = number (x.numeral .document) := if_pos hf
  rw [parse?_print hp,Option.bind_some] at hr
  exact ⟨by rwa [ho],by rwa [ho]⟩

theorem mapM_map_eq_some {α β : Type} {f : α → β} {g : β → Option α} {xs : List α}
    (h : ∀ a ∈ xs, g (f a) = some a) : (xs.map f).mapM g = some xs := by
  induction xs with
  | nil => rfl
  | cons a xs ih =>
    rw [List.map_cons,List.mapM_cons,h a List.mem_cons_self,
      ih fun b hb => h b (List.mem_cons_of_mem _ hb)]
    rfl

theorem faithful_list {α : Type} {read? : Json → Option α} {write : α → Json} {xs : List α}
    (h : ∀ a ∈ xs, Faithful read? write a) :
    Faithful (list? read?) (fun xs => array (xs.map write)) xs := by
  refine ⟨.array fun v hv => ?_,mapM_map_eq_some fun a ha => (h a ha).reads⟩
  obtain ⟨a,ha,rfl⟩ := List.mem_map.mp hv
  exact (h a ha).printable

theorem faithful_texts (d : Dictionary String) : Faithful texts? ofTexts d := by
  constructor
  · refine .object (fun m hm => ?_) fun m hm => ?_
    · obtain ⟨e,_,rfl⟩ := List.mem_map.mp hm
      rfl
    · obtain ⟨e,_,rfl⟩ := List.mem_map.mp hm
      exact .string e.2
  · have hentries : (d.entries.map fun e => (some e.1,ofText e.2)).mapM
        (fun (m : Option String × Json) => m.1.bind fun k => (string? m.2).map (k,·)) =
        some d.entries := mapM_map_eq_some fun _ _ => rfl
    rw [ofTexts,texts?,hentries,Option.map_some,Dictionary.ofList_entries]

/-- A structure is read from the members that are written for it. -/
theorem faithful_object {α : Type} {read? : Json → Option α} {write : α → Json} {a : α}
    (names : List String) {fields : List (String × Option Json)}
    (hwrite : write a = object (written fields)) (hnames : fields.map Prod.fst = names)
    (hnodup : names.Nodup) (hprintable : ∀ f ∈ fields, ∀ v ∈ f.2, v.Printable)
    (hreads : members? names (write a) = some (fields.map Prod.snd) → read? (write a) = some a) :
    Faithful read? write a := by
  refine ⟨hwrite ▸ printable_written hprintable,hreads ?_⟩
  rw [hwrite,members?_written hnames hnodup]

/-- A member that is present is printed whole, and present or not it is read as the given
value. -/
structure Fills {α : Type} (read? : Option Json → Option α) (m : Option Json) (a : α) :
    Prop where
  printable : ∀ v ∈ m, v.Printable
  reads : read? m = some a

namespace Fills

variable {α : Type} {read? : Json → Option α} {write : α → Json} {a : α}

theorem required (h : Faithful read? write a) :
    Fills (Json.required read?) (some (write a)) a :=
  ⟨fun _ hv => Option.some.inj hv ▸ h.printable,h.reads⟩

theorem orElse (default : α) (h : Faithful read? write a) :
    Fills (Json.orElse default read?) (some (write a)) a :=
  ⟨fun _ hv => Option.some.inj hv ▸ h.printable,h.reads⟩

/-- An option that is left out is none, and what is written for some value is not the null
that stands for none. -/
theorem option {o : Option α} (hnull : read? null = none)
    (h : ∀ a ∈ o, Faithful read? write a) :
    Fills (Json.orElse none (option? read?)) (o.map write) o := by
  cases o with
  | none => exact ⟨fun _ hv => (nomatch hv),rfl⟩
  | some a =>
    have ha := h a rfl
    refine ⟨fun _ hv => Option.some.inj hv ▸ ha.printable,?_⟩
    have hne : write a ≠ null := fun hv => by
      have hr := ha.reads
      rw [hv,hnull] at hr
      cases hr
    rw [Option.map_some,Json.orElse,option?,ha.reads,Option.map_some]
    exact hne

theorem list {xs : List α} (h : ∀ a ∈ xs, Faithful read? write a) :
    Fills (Json.orElse [] (list? read?)) (listed write xs) xs := by
  cases xs with
  | nil => exact ⟨fun _ hv => (nomatch hv),rfl⟩
  | cons a xs => exact .orElse [] (faithful_list h)

theorem texts (d : Dictionary String) : Fills (Json.orElse .empty texts?) (listedTexts d) d := by
  unfold listedTexts
  split
  · rename_i hd
    have he : Dictionary.empty = d :=
      Dictionary.ext_entries (List.isEmpty_iff.mp hd).symm
    exact ⟨fun _ hv => (nomatch hv),congrArg some he⟩
  · exact .orElse .empty (faithful_texts d)

end Fills
end Json
end ClusterFramework
