import ClusterFramework.Proofs.Dictionary
import ClusterFramework.Store.Lease

/-! Keys that begin alike stand together in the order of keys, from the first key that is not
before their beginning. A scan therefore finds all of them. -/
namespace ClusterFramework

namespace Utf8

theorem not_lt_of_prefix {p a : Octets} (h : p <+: a) : ¬a < p := by
  induction p generalizing a with
  | nil => exact List.not_lt_nil a
  | cons x p ih =>
    obtain ⟨b,rfl⟩ := h
    have htail : p <+: p ++ b := List.prefix_append p b
    rw [List.cons_append,List.cons_lt_cons_iff]
    rintro (hx | ⟨-,hlt⟩)
    · exact UInt8.lt_irrefl x hx
    · exact ih htail hlt

theorem prefix_of_between {p a b : Octets} (hpa : ¬a < p) (hab : a < b) (hb : p <+: b) :
    p <+: a := by
  induction p generalizing a b with
  | nil => exact List.nil_prefix
  | cons x p ih =>
    obtain ⟨c,rfl⟩ := hb
    cases a with
    | nil => exact absurd (List.nil_lt_cons x p) hpa
    | cons y a =>
      rw [List.cons_lt_cons_iff,not_or] at hpa
      rw [List.cons_append,List.cons_lt_cons_iff] at hab
      have hyx : y = x := by
        rcases hab with hlt | ⟨heq,-⟩
        · exact absurd hlt hpa.1
        · exact heq
      subst hyx
      have htail : ¬a < p := fun h => hpa.2 ⟨rfl,h⟩
      have hafter : a < p ++ c := by
        rcases hab with hlt | ⟨-,hlt⟩
        · exact absurd hlt (UInt8.lt_irrefl y)
        · exact hlt
      exact (List.prefix_cons_inj y).mpr (ih htail hafter (List.prefix_append p c))

end Utf8

theorem takeWhile_eq_filter {α : Type} {q : α → Bool} {es : List α}
    (h : es.Pairwise fun e f => q f → q e) : es.takeWhile q = es.filter q := by
  induction es with
  | nil => rfl
  | cons e es ih =>
    obtain ⟨hhead,htail⟩ := List.pairwise_cons.mp h
    by_cases he : q e
    · simp [he,ih htail]
    · have hnone : es.filter q = [] := List.filter_eq_nil_iff.mpr fun f hf hq => he (hhead f hf hq)
      simp [he,hnone]

namespace LeaseStore

theorem startsWith_iff (key start : String) :
    startsWith key start ↔ Utf8.encode start <+: Utf8.encode key := List.isPrefixOf_iff_prefix

/-- A scan finds exactly the keys that begin so, in order. -/
theorem scan_eq_filter (d : Dictionary StoredValue) (start : String) :
    scan d start =
      (d.entries.filter fun e => startsWith e.1 start).map fun e => (e.1,e.2.value) := by
  obtain ⟨es,hes⟩ := d
  simp only [scan]
  congr 1
  induction es with
  | nil => rfl
  | cons e es ih =>
    obtain ⟨hhead,htail⟩ := List.pairwise_cons.mp hes
    by_cases he : before e.1 start
    · have hnot : startsWith e.1 start = false := by
        rw [← Bool.not_eq_true,startsWith_iff]
        exact fun h => Utf8.not_lt_of_prefix h he
      simpa [he,hnot] using ih htail
    · have hfrom : ∀ f ∈ e :: es, ¬before f.1 start := by
        intro f hf
        rcases List.mem_cons.mp hf with rfl | hf
        · exact he
        · exact fun hlt => he (before_trans (hhead f hf) hlt)
      have hkept : (e :: es).Pairwise fun f g => startsWith g.1 start → startsWith f.1 start := by
        refine hes.imp_of_mem fun hf _ hfg hg => ?_
        rw [startsWith_iff] at hg ⊢
        exact Utf8.prefix_of_between (hfrom _ hf) hfg hg
      rw [List.dropWhile_cons_of_neg (by simpa using he)]
      exact takeWhile_eq_filter hkept

end LeaseStore
end ClusterFramework
