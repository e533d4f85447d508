/-!
# Container paths

A list of container titles as one text: each title follows a slash, and slashes and backslashes
inside a title are escaped by a backslash.  Main statement: decoding undoes encoding
(`decode?_encode`), so a path belongs to at most one list of titles.
-/

namespace MediaShelves.ContainerPath

/-! ## Encoding -/

/-- A title with its slashes and backslashes escaped. -/
def escape : List Char → List Char
  | [] => []
  | c :: rest => if c = '/' ∨ c = '\\' then '\\' :: c :: escape rest else c :: escape rest

/-- The path of a list of titles. -/
def encode : List (List Char) → List Char
  | [] => []
  | title :: titles => '/' :: escape title ++ encode titles

/-! ## Decoding -/

/-- Reads a title up to the next bare slash; the rest begins with that slash or is empty. -/
def readTitle : List Char → Option (List Char × List Char)
  | [] => some ([], [])
  | '/' :: rest => some ([], '/' :: rest)
  | '\\' :: c :: rest => (readTitle rest).map fun (title, rest) => (c :: title, rest)
  | ['\\'] => none
  | c :: rest => (readTitle rest).map fun (title, rest) => (c :: title, rest)

/-- Reading a title leaves no more than there was. -/
theorem length_readTitle {s title rest : List Char} (h : readTitle s = some (title, rest)) :
    rest.length ≤ s.length := by
  fun_induction readTitle s generalizing title rest with
  | case1 => simp_all
  | case2 => simp_all
  | case3 c r ih =>
    obtain ⟨⟨t, r'⟩, ht, he⟩ := Option.map_eq_some_iff.1 h
    simp only [Prod.mk.injEq] at he
    obtain ⟨rfl, rfl⟩ := he
    have := ih ht
    simp only [List.length_cons]
    omega
  | case4 => simp at h
  | case5 c r _ _ _ ih =>
    obtain ⟨⟨t, r'⟩, ht, he⟩ := Option.map_eq_some_iff.1 h
    simp only [Prod.mk.injEq] at he
    obtain ⟨rfl, rfl⟩ := he
    have := ih ht
    simp only [List.length_cons]
    omega

/-- The titles of a path. -/
def decode? (s : List Char) : Option (List (List Char)) :=
  match s with
  | [] => some []
  | '/' :: rest =>
    match _h : readTitle rest with
    | none => none
    | some (title, rest') => (decode? rest').map (title :: ·)
  | _ => none
termination_by s.length
decreasing_by
  have := length_readTitle _h
  simp only [List.length_cons]
  omega

/-! ## Laws -/

/-- Nothing, or a text that begins with the slash of a further title. -/
def IsContinuation (s : List Char) : Prop :=
  s = [] ∨ ∃ rest, s = '/' :: rest

/-- The rest of a path continues the title before it. -/
theorem isContinuation_encode (titles : List (List Char)) : IsContinuation (encode titles) := by
  cases titles with
  | nil => exact .inl rfl
  | cons title titles => exact .inr ⟨_, rfl⟩

/-- Reading stops at the end of an escaped title. -/
theorem readTitle_escape (title : List Char) {rest : List Char} (h : IsContinuation rest) :
    readTitle (escape title ++ rest) = some (title, rest) := by
  induction title with
  | nil =>
    rcases h with rfl | ⟨rest, rfl⟩
    · rfl
    · simp [escape, readTitle]
  | cons c title ih =>
    by_cases hc : c = '/' ∨ c = '\\'
    -- An escaped character is read with its backslash, any other one alone.
    · simp [escape, hc, readTitle, ih]
    · obtain ⟨hslash, hback⟩ := not_or.1 hc
      simp only [escape, if_neg hc, List.cons_append]
      rw [readTitle]
      · simp [ih]
      all_goals simp_all

/-- Decoding undoes encoding. -/
theorem decode?_encode (titles : List (List Char)) : decode? (encode titles) = some titles := by
  induction titles with
  | nil => simp [encode, decode?]
  | cons title titles ih =>
    have h := readTitle_escape title (isContinuation_encode titles)
    simp only [encode, List.cons_append]
    rw [decode?]
    split
    · simp_all
    · simp_all

/-! ## For strings -/

/-- The path of two lists of titles in a row. -/
theorem encode_append (ts us : List (List Char)) : encode (ts ++ us) = encode ts ++ encode us := by
  induction ts with
  | nil => rfl
  | cons t ts ih => simp [encode, ih]

/-- `escape` for strings. -/
def escapeString (title : String) : String :=
  String.ofList (escape title.toList)

/-- The path of a list of titles, as a string. -/
def ofTitles (titles : List String) : String :=
  String.ofList (encode (titles.map String.toList))

/-- The path of a container with this title below the container at `parent`. -/
def child (parent title : String) : String :=
  parent ++ String.ofList ('/' :: escape title.toList)

@[simp] theorem ofTitles_nil : ofTitles [] = "" := rfl

/-- Going down one container appends its title. -/
theorem child_ofTitles (titles : List String) (title : String) :
    child (ofTitles titles) title = ofTitles (titles ++ [title]) := by
  simp [child, ofTitles, encode_append, encode, String.ofList_append]

/-- A path is longer than the path above it. -/
theorem length_lt_length_child (parent title : String) :
    parent.length < (child parent title).length := by
  rw [child, String.length_append, String.length_ofList, List.length_cons]
  omega

/-- A path belongs to one list of titles only. -/
theorem ofTitles_inj {ts us : List String} : ofTitles ts = ofTitles us ↔ ts = us := by
  constructor
  · intro h
    have henc : encode (ts.map String.toList) = encode (us.map String.toList) :=
      String.ofList_injective h
    have hdec := congrArg decode? henc
    rw [decode?_encode, decode?_encode] at hdec
    exact (List.map_inj_right fun _ _ => String.toList_injective).1 (Option.some.inj hdec)
  · intro h
    rw [h]

end MediaShelves.ContainerPath
