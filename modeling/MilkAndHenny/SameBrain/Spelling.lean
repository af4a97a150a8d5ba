import MilkAndHenny.SameBrain.Grouping

/-! Which spellings of an answer meet. The leading article goes before the hyphens are opened, so a
hyphen after an article keeps it. -/

namespace MilkAndHenny.SameBrain
open Library

/-! ### Words -/

theorem wordsFrom_space (word first second : List Char) :
    wordsFrom word (first ++ ' ' :: second) = wordsFrom word first ++ wordsFrom [] second := by
  induction first generalizing word with
  | nil =>
    have space : isSpace ' ' = true := by decide
    rw [nil_append, wordsFrom, wordsFrom, space]
    by_cases empty : word.isEmpty <;> simp [empty]
  | cons char first ih =>
    rw [cons_append, wordsFrom, wordsFrom]
    split
    · exact ih _
    · split
      · exact ih _
      · rw [ih, cons_append]

theorem wordsFrom_concat (word first : List Char) {char : Char} (inWord : isSpace char = false) :
    ∃ words last, wordsFrom word (first ++ [char]) = words ++ [last ++ [char]] ∧
      ∀ rest, wordsFrom word (first ++ char :: rest) = words ++ wordsFrom (last ++ [char]) rest := by
  induction first generalizing word with
  | nil =>
    refine ⟨[], word, ?_, fun rest => ?_⟩
    · simp [wordsFrom, inWord]
    · simp [wordsFrom, inWord]
  | cons next first ih =>
    by_cases space : isSpace next
    · by_cases empty : word.isEmpty
      · obtain ⟨words, last, ended, goes⟩ := ih []
        exact ⟨words, last, by simpa [wordsFrom, space, empty] using ended, fun rest => by simpa [wordsFrom, space, empty] using goes rest⟩
      · obtain ⟨words, last, ended, goes⟩ := ih []
        exact ⟨word :: words, last, by simpa [wordsFrom, space, empty] using ended, fun rest => by simpa [wordsFrom, space, empty] using goes rest⟩
    · obtain ⟨words, last, ended, goes⟩ := ih (word ++ [next])
      exact ⟨words, last, by simpa [wordsFrom, space] using ended, fun rest => by simpa [wordsFrom, space] using goes rest⟩

theorem wordsFrom_append (begun : List Char) {word : List Char} (inWord : word ≠ []) (chars : List Char) :
    ∃ first words, wordsFrom word chars = first :: words ∧ wordsFrom (begun ++ word) chars = (begun ++ first) :: words := by
  induction chars generalizing word with
  | nil => exact ⟨word, [], by simp [wordsFrom, inWord], by simp [wordsFrom, inWord]⟩
  | cons char chars ih =>
    by_cases space : isSpace char
    · exact ⟨word, wordsFrom [] chars, by simp [wordsFrom, space, inWord], by simp [wordsFrom, space, inWord]⟩
    · obtain ⟨first, words, one, both⟩ := @ih (word ++ [char]) (by simp)
      exact ⟨first, words, by simpa [wordsFrom, space] using one, by simpa [wordsFrom, space] using both⟩

def openHyphen (char : Char) : Char := if char = '-' then ' ' else char

def openWord (word : List Char) : List (List Char) := wordsFrom [] (word.map openHyphen)

theorem openWord_hyphen (first second : List Char) : openWord (first ++ '-' :: second) = openWord first ++ openWord second := by
  have opened : (first ++ '-' :: second).map openHyphen = first.map openHyphen ++ ' ' :: second.map openHyphen := by
    rw [map_append, map_cons]
    rfl
  rw [openWord, opened, wordsFrom_space]
  rfl

theorem wordsFrom_joined (words : List (List Char)) :
    wordsFrom [] (([' '].intercalate words).map openHyphen) = words.flatMap openWord := by
  induction words with
  | nil => rfl
  | cons word words ih =>
    match words, ih with
    | [], _ =>
      rw [List.flatMap_singleton]
      exact congrArg (fun chars => wordsFrom [] (List.map openHyphen chars)) (append_nil word)
    | next :: words, ih =>
      have joined : ([' '].intercalate (word :: next :: words)).map openHyphen =
          word.map openHyphen ++ ' ' :: ([' '].intercalate (next :: words)).map openHyphen := by
        simp [openHyphen]
      rw [joined, wordsFrom_space, ih, flatMap_cons]
      rfl

theorem length_joined_lt (word : List Char) (words : List (List Char)) (some_ : word ≠ []) :
    ([' '].intercalate words).length < ([' '].intercalate (word :: words)).length := by
  have long : 0 < word.length := List.length_pos_of_ne_nil some_
  match words with
  | [] => simpa [List.intercalate] using long
  | next :: words =>
    rw [List.intercalate_cons_cons, length_append, length_append]
    omega

/-! ### Answers -/

/-- The kept text of an answer: small letters without marks, and a space for every other sign. -/
def spaced (locale : Locale) (raw : String) : List Char :=
  let combining (char : Char) : Bool := 768 ≤ char.toNat && char.toNat ≤ 879
  let apostrophe (char : Char) : Bool := char.toNat == 39 || char.toNat == 8217
  let letters := (locale.normalize (locale.toLocaleLowerCase raw)).toList.filter fun char => !combining char && !apostrophe char
  letters.map fun char => if locale.isLetterOrNumber char || isSpace char || char == '-' then char else ' '

def words (locale : Locale) (raw : String) : List (List Char) := wordsFrom [] (spaced locale raw)

/-- The whole value of an answer, before it is cut to `sameBrainMaxAnswerLength`. -/
def wholeAnswer (locale : Locale) (raw : String) : List Char :=
  [' '].intercalate ((dropLeadingNoise (words locale raw)).flatMap openWord)

theorem normaliseAnswer_eq (locale : Locale) (raw : String) :
    normaliseAnswer locale raw = String.ofList ((wholeAnswer locale raw).take sameBrainMaxAnswerLength) := by
  rw [wholeAnswer, ← wordsFrom_joined]
  rfl

theorem normaliseAnswer_inj {locale : Locale} {text other : String} (fits : (wholeAnswer locale text).length ≤ sameBrainMaxAnswerLength)
    (fits' : (wholeAnswer locale other).length ≤ sameBrainMaxAnswerLength) :
    normaliseAnswer locale text = normaliseAnswer locale other ↔ wholeAnswer locale text = wholeAnswer locale other := by
  rw [normaliseAnswer_eq, normaliseAnswer_eq, List.take_of_length_le fits, List.take_of_length_le fits', String.ofList_inj]

/-! ### The leading article -/

theorem leadingNoise_spec : ∀ article ∈ leadingNoise, article ≠ [] ∧ '-' ∉ article ∧ wordsFrom [] article = [article] ∧
    openWord article = [article] ∧
    article.all fun char => !(768 ≤ char.toNat && char.toNat ≤ 879) && !(char.toNat == 39 || char.toNat == 8217) := by
  decide

theorem dropLeadingNoise_cons (word next : List Char) (words : List (List Char)) :
    dropLeadingNoise (word :: next :: words) = if word ∈ leadingNoise then next :: words else word :: next :: words := by
  simp [dropLeadingNoise]

theorem dropLeadingNoise_of_not_mem {word : List Char} (meant : word ∉ leadingNoise) (words : List (List Char)) :
    dropLeadingNoise (word :: words) = word :: words := by
  match words with
  | [] => rfl
  | next :: words => rw [dropLeadingNoise_cons, if_neg meant]

/-- What the code relies on of the runtime: neither rewriting crosses a space or a hyphen, and the articles are letters already. -/
structure Locale.Lawful (locale : Locale) : Prop where
  lower_append : ∀ sign ∈ [" ", "-"], ∀ before after, locale.toLocaleLowerCase (before ++ sign ++ after) =
    locale.toLocaleLowerCase before ++ sign ++ locale.toLocaleLowerCase after
  normalize_append : ∀ sign ∈ [" ", "-"], ∀ before after, locale.normalize (before ++ sign ++ after) =
    locale.normalize before ++ sign ++ locale.normalize after
  lower_noise : ∀ article ∈ leadingNoise, locale.toLocaleLowerCase (String.ofList article) = String.ofList article
  normalize_noise : ∀ article ∈ leadingNoise, locale.normalize (String.ofList article) = String.ofList article
  letters : ∀ article ∈ leadingNoise, ∀ char ∈ article, locale.isLetterOrNumber char = true

section
variable {locale : Locale} (lawful : locale.Lawful) {before after text : String} {article : List Char} {before' after' : List Char} {last first : Char}
include lawful

theorem spaced_append {sign : Char} (plain : sign = ' ' ∨ sign = '-') (before after : String) :
    spaced locale (before ++ String.ofList [sign] ++ after) = spaced locale before ++ sign :: spaced locale after := by
  have known : String.ofList [sign] ∈ [" ", "-"] := by
    rcases plain with rfl | rfl <;> decide
  unfold spaced
  rw [lawful.lower_append _ known, lawful.normalize_append _ known]
  rcases plain with rfl | rfl <;> simp [isSpace]

theorem spaced_noise (noise : article ∈ leadingNoise) : spaced locale (String.ofList article) = article := by
  obtain ⟨-, -, -, -, kept⟩ := leadingNoise_spec article noise
  unfold spaced
  rw [lawful.lower_noise article noise, lawful.normalize_noise article noise, String.toList_ofList]
  dsimp only
  rw [filter_eq_self.mpr (all_eq_true.mp kept)]
  refine map_congr_left (g := id) (fun char mem => ?_) |>.trans (map_id article)
  rw [lawful.letters article noise char mem]
  rfl

theorem words_hyphen (ends : spaced locale before = before' ++ [last])
    (starts : spaced locale after = first :: after') (inWord : isSpace last = false) (inWord' : isSpace first = false) :
    ∃ earlier word next later, words locale before = earlier ++ [word] ∧
      words locale (before ++ "-" ++ after) = earlier ++ (word ++ '-' :: next) :: later ∧
      words locale (before ++ " " ++ after) = earlier ++ word :: next :: later := by
  obtain ⟨earlier, word, ended, goes⟩ := wordsFrom_concat [] before' inWord
  obtain ⟨next, later, alone, joined⟩ := @wordsFrom_append (word ++ [last, '-']) [first] (by simp) after'
  have hyphen : isSpace '-' = false := by decide
  have starts' : words locale after = next :: later := by
    rw [words, starts, ← alone, wordsFrom, inWord']
    rfl
  have before_ : words locale before = earlier ++ [word ++ [last]] := by rw [words, ends, ended]
  refine ⟨earlier, word ++ [last], next, later, before_, ?_, ?_⟩
  · have read := spaced_append lawful (.inr rfl) before after
    have sign : String.ofList ['-'] = "-" := rfl
    rw [words, ← sign, read, ends, starts, append_assoc, singleton_append, goes, wordsFrom, hyphen, Bool.not_false,
      if_pos rfl, wordsFrom, inWord', Bool.not_false, if_pos rfl, append_assoc word, singleton_append, joined]
    simp
  · have read := spaced_append lawful (.inl rfl) before after
    have sign : String.ofList [' '] = " " := rfl
    rw [words, ← sign, read, wordsFrom_space, ← words, ← words, before_, starts', append_assoc]
    rfl

theorem wholeAnswer_hyphen (ends : spaced locale before = before' ++ [last])
    (starts : spaced locale after = first :: after') (inWord : isSpace last = false) (inWord' : isSpace first = false) :
    ((∀ article ∈ leadingNoise, words locale before ≠ [article]) →
      wholeAnswer locale (before ++ "-" ++ after) = wholeAnswer locale (before ++ " " ++ after)) ∧
    ((∃ article ∈ leadingNoise, words locale before = [article]) →
      (wholeAnswer locale (before ++ " " ++ after)).length < (wholeAnswer locale (before ++ "-" ++ after)).length) := by
  obtain ⟨earlier, word, next, later, before_, hyphened, apart⟩ := words_hyphen lawful ends starts inWord inWord'
  have meant : word ++ '-' :: next ∉ leadingNoise := fun noise => (leadingNoise_spec _ noise).2.1 (by simp)
  rw [wholeAnswer, wholeAnswer, hyphened, apart, before_]
  match earlier with
  | [] =>
    rw [nil_append, nil_append, nil_append, dropLeadingNoise_of_not_mem meant, dropLeadingNoise_cons, flatMap_cons,
      openWord_hyphen]
    constructor
    · intro noArticle
      rw [if_neg fun noise => noArticle word noise rfl, flatMap_cons, flatMap_cons, append_assoc]
    · rintro ⟨_, noise, same⟩
      cases List.singleton_inj.mp same
      obtain ⟨some_, -, -, single, -⟩ := leadingNoise_spec word noise
      rw [if_pos noise, single, flatMap_cons, append_assoc]
      exact length_joined_lt word _ some_
  | leading :: earlier =>
    constructor
    · intro _
      have dropped (ending : List (List Char)) (some_ : ending ≠ []) : dropLeadingNoise (leading :: earlier ++ ending) =
          (if leading ∈ leadingNoise then earlier else leading :: earlier) ++ ending := by
        obtain ⟨second, rest, split⟩ := List.exists_cons_of_ne_nil (List.append_ne_nil_of_right_ne_nil earlier some_)
        rw [cons_append, split, dropLeadingNoise_cons]
        split
        · exact split.symm
        · rw [cons_append, split]
      rw [dropped _ (cons_ne_nil _ _), dropped _ (cons_ne_nil _ _), flatMap_append, flatMap_append,
        flatMap_cons, flatMap_cons, flatMap_cons, openWord_hyphen, append_assoc]
    · rintro ⟨_, -, same⟩
      exact absurd (congrArg List.length same) (by simp)

theorem wholeAnswer_article (noise : article ∈ leadingNoise) :
    ((∃ word later, words locale text = word :: later ∧ (word ∈ leadingNoise → later = [])) →
      wholeAnswer locale (String.ofList article ++ " " ++ text) = wholeAnswer locale text) ∧
    (¬ (∃ word later, words locale text = word :: later ∧ (word ∈ leadingNoise → later = [])) →
      (wholeAnswer locale text).length < (wholeAnswer locale (String.ofList article ++ " " ++ text)).length) := by
  obtain ⟨some_, -, single, opened, -⟩ := leadingNoise_spec article noise
  have added : words locale (String.ofList article ++ " " ++ text) = article :: words locale text := by
    have sign : String.ofList [' '] = " " := rfl
    rw [words, ← sign, spaced_append lawful (.inl rfl), wordsFrom_space, spaced_noise lawful noise, single]
    rfl
  rw [wholeAnswer, wholeAnswer, added]
  match words locale text with
  | [] =>
    refine ⟨fun ⟨_, _, same, _⟩ => absurd same nofun, fun _ => ?_⟩
    simp only [dropLeadingNoise, flatMap_cons, opened]
    exact length_joined_lt article [] some_
  | [word] => exact ⟨fun _ => by rw [dropLeadingNoise_cons, if_pos noise]; rfl, fun none_ => absurd ⟨word, [], rfl, fun _ => rfl⟩ none_⟩
  | word :: next :: later =>
    rw [dropLeadingNoise_cons, if_pos noise, dropLeadingNoise_cons]
    by_cases second : word ∈ leadingNoise
    · obtain ⟨some_, -, -, opened, -⟩ := leadingNoise_spec word second
      rw [if_pos second, flatMap_cons, opened]
      refine ⟨fun ⟨_, _, same, alone⟩ => ?_, fun _ => length_joined_lt word _ some_⟩
      obtain ⟨rfl, rfl⟩ := List.cons.inj same
      exact absurd (alone second) (cons_ne_nil _ _)
    · rw [if_neg second]
      exact ⟨fun _ => rfl, fun none_ => absurd ⟨word, _, rfl, fun noise => absurd noise second⟩ none_⟩

end

def EndsInWord (locale : Locale) (text : String) : Prop :=
  ∃ chars last, spaced locale text = chars ++ [last] ∧ isSpace last = false

def StartsWithWord (locale : Locale) (text : String) : Prop :=
  ∃ first chars, spaced locale text = first :: chars ∧ isSpace first = false

/-- Where the spellings of an answer meet, and that a round takes its answers in any order. -/
theorem answers_meet_iff {locale : Locale} (lawful : locale.Lawful) :
    (∀ before after, EndsInWord locale before → StartsWithWord locale after →
      (wholeAnswer locale (before ++ "-" ++ after)).length ≤ sameBrainMaxAnswerLength →
      (normaliseAnswer locale (before ++ "-" ++ after) = normaliseAnswer locale (before ++ " " ++ after) ↔
        ∀ article ∈ leadingNoise, words locale before ≠ [article])) ∧
    (∀ text other, locale.normalize (locale.toLocaleLowerCase text) = locale.normalize (locale.toLocaleLowerCase other) →
      normaliseAnswer locale text = normaliseAnswer locale other) ∧
    (∀ article ∈ leadingNoise, ∀ text,
      (wholeAnswer locale (String.ofList article ++ " " ++ text)).length ≤ sameBrainMaxAnswerLength →
      (normaliseAnswer locale (String.ofList article ++ " " ++ text) = normaliseAnswer locale text ↔
        ∃ word later, words locale text = word :: later ∧ (word ∈ leadingNoise → later = []))) ∧
    (∀ round question playerCount answers others, List.Perm others answers →
      let result := scoreRound round question answers playerCount
      let other := scoreRound round question others playerCount
      other.parts = result.parts ∧ other.herd.Perm result.herd ∧ other.pointsEach = result.pointsEach ∧
        other.oddPlayerId = result.oddPlayerId ∧ other.noScoreReason = result.noScoreReason) ∧
    ∀ round question playerCount answers index,
      (scoreRound round question answers playerCount).herdIndex = some index ↔
        Leads (scoreRound round question answers playerCount).clusters index := by
  refine ⟨?_, ?_, ?_, ?_, fun _ _ _ _ _ => herdIndex_iff⟩
  · rintro before after ⟨_, _, ends, inWord⟩ ⟨_, _, starts, inWord'⟩ fits
    obtain ⟨meet, differ⟩ := wholeAnswer_hyphen lawful ends starts inWord inWord'
    constructor
    · intro same article noise single
      have shorter := differ ⟨article, noise, single⟩
      exact absurd ((normaliseAnswer_inj fits (shorter.le.trans fits)).mp same) fun equal => absurd (congrArg List.length equal) shorter.ne'
    · intro noArticle
      rw [normaliseAnswer_eq, normaliseAnswer_eq, meet noArticle]
  · intro text other same
    simp [normaliseAnswer, same]
  · intro article noise text fits
    obtain ⟨meet, differ⟩ := @wholeAnswer_article locale lawful text article noise
    constructor
    · intro same
      by_contra none_
      have shorter := differ none_
      exact absurd ((normaliseAnswer_inj fits (shorter.le.trans fits)).mp same) fun equal => absurd (congrArg List.length equal) shorter.ne'
    · intro one
      rw [normaliseAnswer_eq, normaliseAnswer_eq, meet one]
  · exact fun round question playerCount answers others same => scoreRound_perm round question playerCount same

def plainLocale : Locale where
  toLocaleLowerCase text := String.ofList (text.toList.map Char.toLower)
  normalize text := text
  isLetterOrNumber := Char.isAlphanum

theorem plainLocale_lawful : plainLocale.Lawful where
  lower_append sign known before after := by
    have kept : String.ofList (sign.toList.map Char.toLower) = sign := by
      rcases List.mem_pair.mp known with rfl | rfl <;> rfl
    simp only [plainLocale, String.toList_append, map_append, String.ofList_append, kept]
  normalize_append _ _ _ _ := rfl
  lower_noise := by decide
  normalize_noise _ _ := rfl
  letters article noise := all_eq_true.mp ((by decide : ∀ article ∈ leadingNoise, article.all Char.isAlphanum) article noise)

/-- The two spellings that the rules give as an example meet, in a case of each kind. -/
theorem answers_meet_ice_cream : normaliseAnswer plainLocale "ice-cream" = normaliseAnswer plainLocale "ice cream" ∧
    normaliseAnswer plainLocale "Beach" = normaliseAnswer plainLocale "beach" ∧
    normaliseAnswer plainLocale "the beach" = normaliseAnswer plainLocale "beach" := by
  obtain ⟨hyphens, cases_, articles, -, -⟩ := answers_meet_iff plainLocale_lawful
  refine ⟨?_, cases_ _ _ (by decide), ?_⟩
  · exact (hyphens "ice" "cream" ⟨['i', 'c'], 'e', by decide, by decide⟩ ⟨'c', "ream".toList, by decide, by decide⟩ (by decide)).mpr (by decide)
  · exact (articles "the".toList (by decide) "beach" (by decide)).mpr ⟨"beach".toList, [], by decide, fun _ => rfl⟩

/-- A hyphen after the article: "the-beach" is not "the beach". -/
theorem answers_meet_the_beach : EndsInWord plainLocale "the" ∧ StartsWithWord plainLocale "beach" ∧
    (wholeAnswer plainLocale ("the" ++ "-" ++ "beach")).length ≤ sameBrainMaxAnswerLength ∧
    normaliseAnswer plainLocale ("the" ++ "-" ++ "beach") ≠ normaliseAnswer plainLocale ("the" ++ " " ++ "beach") :=
  ⟨⟨['t', 'h'], 'e', by decide, by decide⟩, ⟨'b', "each".toList, by decide, by decide⟩, by decide, by decide⟩

end MilkAndHenny.SameBrain
