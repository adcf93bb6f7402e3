import ClusterFramework.Log.Context
import ClusterFramework.Proofs.Text.Parts

/-! Messages of more than one line. Whatever ends its lines, a message comes out as records that
all begin with the header, one for each line, and from their texts it can be put together again. -/
namespace ClusterFramework
namespace Log

/-- Every carriage return with a line feed becomes a line feed alone. -/
def plainFeeds : List Char → List Char
  | [] => []
  | '\r' :: '\n' :: cs => '\n' :: plainFeeds cs
  | c :: cs => c :: plainFeeds cs

def dropFinalFeed (cs : List Char) : List Char :=
  if cs.getLast? = some '\n' then cs.dropLast else cs

def Unended (cs : List Char) : Prop := cs ≠ [] ∧ cs.getLast? ≠ some '\n'

instance (cs : List Char) : Decidable (Unended cs) :=
  inferInstanceAs (Decidable (cs ≠ [] ∧ cs.getLast? ≠ some '\n'))

/-- A line for each line feed, and one more if the last one lacks it. -/
def lineCount (cs : List Char) : Nat := cs.count '\n'+if Unended cs then 1 else 0

variable {c : Char} {cs : List Char}

theorem plainFeeds_cons (h : ∀ rest, c = '\r' → cs = '\n' :: rest → False) :
    plainFeeds (c :: cs) = c :: plainFeeds cs := by
  rw [plainFeeds]
  exact fun rest hc hcs => h rest hc hcs

theorem count_plainFeeds (cs : List Char) : (plainFeeds cs).count '\n' = cs.count '\n' := by
  fun_induction plainFeeds cs with
  | case1 => rfl
  | case2 cs ih => simp [ih]
  | case3 c cs h ih => rw [List.count_cons,List.count_cons,ih]

theorem getLast?_plainFeeds (cs : List Char) : (plainFeeds cs).getLast? = cs.getLast? := by
  fun_induction plainFeeds cs with
  | case1 => rfl
  | case2 cs ih => simp [List.getLast?_cons,ih]
  | case3 c cs h ih => rw [List.getLast?_cons,List.getLast?_cons,ih]

theorem lines_eq_nil_iff : lines cs = [] ↔ cs = [] := by
  fun_cases lines cs <;> simp

theorem unended_feed_cons : Unended ('\n' :: cs) ↔ Unended cs := by
  cases cs with
  | nil => simp [Unended]
  | cons d cs => simp [Unended,List.getLast?_cons_cons]

theorem unended_cons (h : cs ≠ []) : Unended (c :: cs) ↔ Unended cs := by
  obtain ⟨d,cs,rfl⟩ := List.exists_cons_of_ne_nil h
  simp [Unended,List.getLast?_cons_cons]

/-- The lines are what stands between the line feeds. Behind the last of them there may be
nothing, which is no line. -/
theorem splitAt_plainFeeds (cs : List Char) :
    Text.splitAt '\n' (plainFeeds cs) = lines cs ++ if Unended cs then [] else [[]] := by
  fun_induction lines cs with
  | case1 => rfl
  | case2 cs ih =>
    rw [plainFeeds_cons (by simp),Text.splitAt,if_pos rfl,ih]
    simp only [unended_feed_cons,List.cons_append]
  | case3 cs ih =>
    rw [plainFeeds,Text.splitAt,if_pos rfl,ih]
    simp only [unended_cons (List.cons_ne_nil '\n' cs),unended_feed_cons,List.cons_append]
  | case4 c cs hc hrest hnil ih =>
    obtain rfl := lines_eq_nil_iff.mp hnil
    have hunended : Unended [c] := by simpa [Unended] using hc
    rw [if_pos hunended,plainFeeds_cons hrest,Text.splitAt,if_neg hc]
    rfl
  | case5 c cs hc hrest l ls hlines ih =>
    have hcs : cs ≠ [] := by
      rintro rfl
      cases hlines
    rw [plainFeeds_cons hrest,Text.splitAt,if_neg hc,ih,hlines]
    simp only [unended_cons hcs,List.cons_append]

theorem length_lines (cs : List Char) : (lines cs).length = lineCount cs := by
  have hparts := congrArg List.length (splitAt_plainFeeds cs)
  rw [Text.length_splitAt,count_plainFeeds,List.length_append] at hparts
  rw [lineCount]
  split at hparts
  · rename_i hopen
    rw [if_pos hopen]
    exact hparts.symm
  · rename_i hended
    rw [if_neg hended]
    exact (Nat.succ.inj hparts).symm

theorem recordTexts_of_ne_nil {message : String} (h : message.toList ≠ []) :
    recordTexts message = lines message.toList := by
  rw [recordTexts]
  split
  · rename_i hnil
    exact absurd (lines_eq_nil_iff.mp hnil) h
  · rfl

theorem recordTexts_of_nil {message : String} (h : message.toList = []) :
    recordTexts message = [[]] := by
  rw [recordTexts,h]
  rfl

theorem recordTexts_eq (message : String) :
    recordTexts message = Text.splitAt '\n' (dropFinalFeed (plainFeeds message.toList)) := by
  have hlines := splitAt_plainFeeds message.toList
  by_cases hnil : message.toList = []
  · rw [recordTexts_of_nil hnil,hnil]
    rfl
  · rw [recordTexts_of_ne_nil hnil,dropFinalFeed,getLast?_plainFeeds]
    by_cases hlast : message.toList.getLast? = some '\n'
    · obtain ⟨front,hfront⟩ := List.getLast?_eq_some_iff.mp ((getLast?_plainFeeds _).trans hlast)
      rw [hfront,Text.splitAt_concat,if_neg fun hopen => hopen.2 hlast] at hlines
      rw [if_pos hlast,hfront,List.dropLast_concat]
      exact (List.append_cancel_right hlines).symm
    · rw [if_pos ⟨hnil,hlast⟩,List.append_nil] at hlines
      rw [if_neg hlast,hlines]

theorem length_recordTexts (message : String) :
    (recordTexts message).length = max 1 (lineCount message.toList) := by
  by_cases hnil : message.toList = []
  · rw [recordTexts_of_nil hnil,hnil]
    rfl
  · rw [recordTexts_of_ne_nil hnil,← length_lines]
    have hpos : 0 < (lines message.toList).length :=
      List.length_pos_iff.mpr fun h => hnil (lines_eq_nil_iff.mp h)
    omega

theorem splitAt_records {header : List Char} (hheader : '\n' ∉ header) {texts : List (List Char)}
    (h : ∀ text ∈ texts, '\n' ∉ text) :
    Text.splitAt '\n' (texts.map fun text => header ++ text ++ ['\n']).flatten =
      texts.map (header ++ ·) ++ [[]] := by
  induction texts with
  | nil => rfl
  | cons text texts ih =>
    have htext : '\n' ∉ header ++ text := by
      rw [List.mem_append,not_or]
      exact ⟨hheader,h text List.mem_cons_self⟩
    rw [List.map_cons,List.flatten_cons,List.append_assoc,List.singleton_append,
      Text.splitAt_append htext,ih fun text ht => h text (List.mem_cons_of_mem _ ht)]
    rfl

/-- A message is written as records of one header, a record for each of its lines and one at
least. The texts of the records hold no line feed, and joined by line feeds they are the message,
but for its carriage returns before line feeds and one line feed at its end. If the header holds
no line feed, every line that is written begins with it and goes on with the text of one record. -/
theorem format_of_lines (c : Context) (severity : Severity)
    (location timestamp message : String) :
    let header := c.header severity location timestamp
    let texts := recordTexts message
    let written := (c.format severity location timestamp message).toList
    written = (texts.map fun text => header ++ text ++ ['\n']).flatten ∧ 1 ≤ texts.length ∧
      (∀ text ∈ texts, '\n' ∉ text) ∧ texts.length = max 1 (lineCount message.toList) ∧
      Text.joinWith '\n' texts = dropFinalFeed (plainFeeds message.toList) ∧
      ('\n' ∉ header → Text.splitAt '\n' written = texts.map (header ++ ·) ++ [[]]) := by
  intro header texts written
  have hseparated := Text.splitAt_eq_iff.mp (recordTexts_eq message).symm
  have hwritten : written = (texts.map fun text => header ++ text ++ ['\n']).flatten := by
    rw [← List.flatMap_def]
    exact String.toList_ofList
  refine ⟨hwritten,List.length_pos_iff.mpr hseparated.ne_nil,hseparated.plain,
    length_recordTexts message,hseparated.joined,fun hheader => ?_⟩
  rw [hwritten]
  exact splitAt_records hheader hseparated.plain

/-- Only the carriage return next to a line feed belongs to the end of a line. -/
example : recordTexts "a\r\r\n\n\rb\n" = [['a','\r'],[],['\r','b']] := by decide +kernel

end Log
end ClusterFramework
