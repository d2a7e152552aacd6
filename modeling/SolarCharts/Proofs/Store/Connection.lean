import Mathlib.Data.List.DropRight
import SolarCharts.Store.Connection

/-!
# Connections

Settings give a connection exactly when what it needs is not blank and its timeout is a duration. The
base URL of the connection is the URL of the settings without the blanks around it and, after that,
without the slashes at its end, behind a scheme if it names none. Each is taken away once, in this
order. So a blank in front of these slashes comes to stand at the end and stays there, and of a URL that
holds slashes alone nothing is left but the scheme.

* `exists_ofSettings_iff` — when there is a connection.
* `endsPlain_bare_iff` — what is left of a URL ends well if its slashes and blanks stand in order.
* `baseUrlOf_baseUrlOf_iff` — a base URL that ends well is its own base URL, and no other one is.
* `baseUrl_settled_iff` — both of the connections that settings give.
-/

namespace SolarCharts

/-! ## Values of programs that may fail -/

theorem bind_eq_ok_iff {ε α β : Type} {x : Except ε α} {f : α → Except ε β} {b : β} :
    (x >>= f) = .ok b ↔ ∃ a, x = .ok a ∧ f a = .ok b := by
  cases x with
  | error e => simp [bind, Except.bind]
  | ok a => simp [bind, Except.bind]

theorem mapError_eq_ok_iff {ε ε' α : Type} {x : Except ε α} {f : ε → ε'} {a : α} :
    x.mapError f = .ok a ↔ x = .ok a := by
  cases x <;> simp [Except.mapError]

/-! ## Checks -/

/-- A setting is a duration exactly where its text, without blanks around it, is one. -/
theorem Settings.duration_eq_ok_iff {settings : Settings} {key : Key} {d : Duration} :
    settings.duration key = .ok d ↔
      DurationText.ofText? (Text.trim (settings.value key)) = some d := by
  unfold Settings.duration
  cases DurationText.ofText? (Text.trim (settings.value key)) <;> simp

/-- The check passes exactly where nothing that is needed is blank. -/
theorem Settings.check_eq_ok_iff {settings : Settings} :
    settings.check = .ok () ↔
      ∀ key ∈ Settings.neededKeys, Text.isAllBlank (settings.value key) = false := by
  unfold Settings.check Settings.firstBlank?
  cases hFirst : Settings.neededKeys.find? fun key => Text.isAllBlank (settings.value key) with
  | none => simpa using hFirst
  | some key =>
    have hBlank := List.find?_some hFirst
    have hMem := List.mem_of_find?_eq_some hFirst
    refine iff_of_false (fun h => by cases h) fun hAll => ?_
    rw [hAll key hMem] at hBlank
    cases hBlank

/-! ## Taking away from the end -/

namespace Text

variable {drop : Char → Bool} {chars : List Char}

/-- What is taken from the end are characters that should go. -/
theorem exists_dropEnd_append (drop : Char → Bool) (chars : List Char) :
    ∃ back, chars = dropEnd drop chars ++ back ∧ ∀ c ∈ back, drop c = true :=
  ⟨chars.rtakeWhile drop, List.rdropWhile_append_rtakeWhile.symm, fun _ => List.mem_rtakeWhile_imp⟩

theorem dropEnd_append {c : Char} {back : List Char} (hBack : ∀ d ∈ back, drop d = true)
    (hStop : drop c = false) (front : List Char) :
    dropEnd drop (front ++ c :: back) = front ++ [c] := by
  have hBack' : ∀ d ∈ back.reverse, drop d = true := fun d hd => hBack d (List.mem_reverse.mp hd)
  have hReverse : (front ++ c :: back).reverse = back.reverse ++ c :: front.reverse := by simp
  rw [dropEnd, hReverse, List.dropWhile_append_of_pos hBack']
  simp [hStop]

end Text

namespace Connection

variable {chars : List Char} {settings : Settings}

/-- Settings give a connection exactly where they pass both checks. -/
theorem exists_ofSettings_iff :
    (∃ connection, ofSettings settings = .ok connection) ↔
      (∀ key ∈ [Key.url, .token, .org], Text.isAllBlank (settings.value key) = false) ∧
        (DurationText.ofText? (Text.trim (settings.value .timeout))).isSome := by
  rw [Option.isSome_iff_exists]
  simp only [ofSettings, bind_eq_ok_iff, Settings.duration_eq_ok_iff]
  constructor
  · rintro ⟨connection, _, hCheck, timeout, hTimeout, -⟩
    exact ⟨Settings.check_eq_ok_iff.mp hCheck, timeout, hTimeout⟩
  · rintro ⟨hNamed, timeout, hTimeout⟩
    exact ⟨_, (), Settings.check_eq_ok_iff.mpr hNamed, timeout, hTimeout, rfl⟩

/-! ## Schemes -/

/-- A scheme is told by a colon and two slashes, wherever they stand. -/
theorem hasScheme_iff : hasScheme chars = true ↔ [':', '/', '/'] <:+: chars := by
  fun_induction hasScheme chars with
  | case1 => simp
  | case2 rest => exact iff_of_true rfl ⟨[], rest, rfl⟩
  | case3 c rest hOther ih =>
    rw [ih, List.infix_cons_iff]
    constructor
    · exact Or.inr
    · rintro (⟨back, hHere⟩ | hLater)
      · obtain ⟨rfl, hRest⟩ := List.cons.inj hHere
        exact absurd hRest.symm (hOther back rfl)
      · exact hLater

/-! ## Ends -/

/-- Neither a slash nor a blank. -/
def IsPlain (c : Char) : Prop := c ≠ '/' ∧ Text.isBlank c = false

/-- The text ends in neither a slash nor a blank, and in something. -/
def EndsPlain (chars : List Char) : Prop := ∃ front c, chars = front ++ [c] ∧ IsPlain c

/-- Behind the last character that is neither a slash nor a blank the text has slashes first, and then
blanks. It holds such a character. -/
def IsTidy (chars : List Char) : Prop :=
  ∃ front c slashes blanks, chars = front ++ c :: (slashes ++ blanks) ∧ IsPlain c ∧
    (∀ d ∈ slashes, d = '/') ∧ ∀ d ∈ blanks, Text.isBlank d = true

/-- A text without the blanks around it and, after that, without the slashes at its end. -/
def bare (chars : List Char) : List Char := Text.dropEnd (· == '/') (Text.trimmed chars)

/-- The base URL is what is left of the setting, with a scheme in front if it names none. -/
theorem toList_baseUrlOf (setting : String) :
    (baseUrlOf setting).toList =
      if hasScheme (bare setting.toList) then bare setting.toList
      else "http://".toList ++ bare setting.toList :=
  String.toList_ofList

/-- What is taken away: blanks in front, and slashes and then blanks behind. -/
theorem exists_bare_append (chars : List Char) :
    ∃ start slashes blanks, chars = start ++ (bare chars ++ (slashes ++ blanks)) ∧
      (∀ d ∈ start, Text.isBlank d = true) ∧ (∀ d ∈ slashes, d = '/') ∧
      ∀ d ∈ blanks, Text.isBlank d = true := by
  obtain ⟨blanks, hBlanks, hBlank⟩ :=
    Text.exists_dropEnd_append Text.isBlank (chars.dropWhile Text.isBlank)
  obtain ⟨slashes, hSlashes, hSlash⟩ := Text.exists_dropEnd_append (· == '/') (Text.trimmed chars)
  refine ⟨chars.takeWhile Text.isBlank, slashes, blanks, ?_, ?_, ?_, hBlank⟩
  · have hRest : bare chars ++ (slashes ++ blanks) = chars.dropWhile Text.isBlank := by
      rw [← List.append_assoc, bare, ← hSlashes]
      exact hBlanks.symm
    rw [hRest, List.takeWhile_append_dropWhile]
  · intro d hd
    exact List.mem_takeWhile_imp hd
  · intro d hd
    simpa using hSlash d hd

/-- Slashes and then blanks behind a character are taken away. -/
theorem bare_append {front slashes blanks : List Char} {c : Char} (hPlain : IsPlain c)
    (hSlashes : ∀ d ∈ slashes, d = '/') (hBlanks : ∀ d ∈ blanks, Text.isBlank d = true) :
    bare (front ++ c :: (slashes ++ blanks)) = front.dropWhile Text.isBlank ++ [c] := by
  obtain ⟨hSlash, hBlank⟩ := hPlain
  have hStart : (front ++ c :: (slashes ++ blanks)).dropWhile Text.isBlank =
      front.dropWhile Text.isBlank ++ c :: (slashes ++ blanks) := by
    rw [List.dropWhile_append, List.dropWhile_cons_of_neg (by simp [hBlank])]
    split
    · next hNone => rw [List.isEmpty_iff.mp hNone, List.nil_append]
    · rfl
  -- blanks go up to the last slash, or up to the character itself
  have hTrimmed : Text.trimmed (front ++ c :: (slashes ++ blanks)) =
      front.dropWhile Text.isBlank ++ c :: slashes := by
    rw [Text.trimmed, hStart]
    rcases List.eq_nil_or_concat slashes with rfl | ⟨others, last, rfl⟩
    · exact Text.dropEnd_append hBlanks hBlank _
    · obtain rfl : last = '/' := hSlashes last (by simp)
      have hSplit : front.dropWhile Text.isBlank ++ c :: (others.concat '/' ++ blanks) =
          (front.dropWhile Text.isBlank ++ c :: others) ++ '/' :: blanks := by simp
      rw [hSplit, Text.dropEnd_append hBlanks (by decide)]
      simp
  rw [bare, hTrimmed]
  refine Text.dropEnd_append (fun d hd => ?_) (by simpa using hSlash) _
  simpa using hSlashes d hd

/-- What is left of a text ends well exactly where its slashes and blanks stand in order. -/
theorem endsPlain_bare_iff : EndsPlain (bare chars) ↔ IsTidy chars := by
  constructor
  · rintro ⟨front, c, hBare, hPlain⟩
    -- what was taken away comes back around it, the slashes in front of the blanks
    obtain ⟨start, slashes, blanks, hChars, -, hSlashes, hBlanks⟩ := exists_bare_append chars
    refine ⟨start ++ front, c, slashes, blanks, ?_, hPlain, hSlashes, hBlanks⟩
    rw [hBare] at hChars
    rw [hChars]
    simp
  · rintro ⟨front, c, slashes, blanks, rfl, hPlain, hSlashes, hBlanks⟩
    exact ⟨_, c, bare_append hPlain hSlashes hBlanks, hPlain⟩

/-! ## Base URLs -/

/-- Every base URL names a scheme. -/
theorem hasScheme_baseUrlOf (setting : String) : hasScheme (baseUrlOf setting).toList = true := by
  rw [toList_baseUrlOf]
  split
  · next hScheme => exact hScheme
  · rw [hasScheme_iff]
    exact ⟨"http".toList, bare setting.toList, rfl⟩

/-- The scheme in front has no say in how it ends. -/
theorem endsPlain_baseUrlOf_iff (setting : String) :
    EndsPlain (baseUrlOf setting).toList ↔ EndsPlain (bare setting.toList) := by
  rw [toList_baseUrlOf]
  split
  · rfl
  · constructor
    · rintro ⟨front, c, hEnd, hPlain⟩
      rcases List.eq_nil_or_concat (bare setting.toList) with hNone | ⟨others, last, hLast⟩
      · -- the scheme alone ends in a slash
        rw [hNone, List.append_nil] at hEnd
        have hSlash : '/' = c := by simpa using congrArg List.getLast? hEnd
        exact absurd hSlash.symm hPlain.1
      · rw [hLast, List.concat_eq_append, ← List.append_assoc] at hEnd
        obtain ⟨-, hSame⟩ := List.append_inj' hEnd rfl
        rw [hLast]
        obtain rfl := List.cons.inj hSame |>.1
        exact ⟨others, last, List.concat_eq_append, hPlain⟩
    · rintro ⟨front, c, hEnd, hPlain⟩
      exact ⟨"http://".toList ++ front, c, by rw [hEnd, List.append_assoc], hPlain⟩

theorem trimmed_prefix_dropWhile (chars : List Char) :
    Text.trimmed chars <+: chars.dropWhile Text.isBlank :=
  List.rdropWhile_prefix _ _

theorem bare_prefix_trimmed (chars : List Char) : bare chars <+: Text.trimmed chars :=
  List.rdropWhile_prefix _ _

/-- What is left of a text starts with no blank. -/
theorem not_isBlank_of_bare {c : Char} {rest : List Char} (h : bare chars = c :: rest) :
    Text.isBlank c = false := by
  obtain ⟨more, hMore⟩ := (bare_prefix_trimmed chars).trans (trimmed_prefix_dropWhile chars)
  -- the first character that is left was not dropped in front
  have hHead := List.head?_dropWhile_not Text.isBlank chars
  rw [← hMore, h] at hHead
  simpa using hHead

/-- From a text that neither starts with a blank nor ends in a blank or a slash nothing is taken. -/
theorem bare_eq_self {c : Char} {rest : List Char} (hStart : chars = c :: rest)
    (hBlank : Text.isBlank c = false) (hEnd : EndsPlain chars) : bare chars = chars := by
  obtain ⟨front, last, rfl, hPlain⟩ := hEnd
  -- the text starts with no blank, so none is dropped in front
  have hKept : front.dropWhile Text.isBlank = front := by
    cases front with
    | nil => rfl
    | cons first front =>
      obtain ⟨rfl, -⟩ := List.cons.inj hStart
      exact List.dropWhile_cons_of_neg (by simp [hBlank])
  have hNothing : bare (front ++ last :: ([] ++ [])) = front.dropWhile Text.isBlank ++ [last] :=
    bare_append hPlain nofun nofun
  rw [hKept] at hNothing
  exact hNothing

/-- From a base URL that ends well nothing is taken. -/
theorem baseUrlOf_of_endsPlain {setting : String} (h : EndsPlain (bare setting.toList)) :
    baseUrlOf (baseUrlOf setting) = baseUrlOf setting := by
  have hEnd := (endsPlain_baseUrlOf_iff setting).mpr h
  have hScheme := hasScheme_baseUrlOf setting
  obtain ⟨c, rest, hStart, hBlank⟩ :
      ∃ c rest, (baseUrlOf setting).toList = c :: rest ∧ Text.isBlank c = false := by
    rw [toList_baseUrlOf]
    -- with a scheme of its own it starts as what is left does, else with the scheme
    split
    · obtain ⟨front, last, hBare, -⟩ := h
      obtain ⟨c, rest, hCons⟩ := List.exists_cons_of_ne_nil (List.concat_ne_nil last front)
      rw [← hBare] at hCons
      exact ⟨c, rest, hCons, not_isBlank_of_bare hCons⟩
    · exact ⟨'h', _, rfl, by decide⟩
  have hSame := bare_eq_self hStart hBlank hEnd
  apply String.toList_inj.mp
  rw [toList_baseUrlOf (baseUrlOf setting), hSame, if_pos hScheme]

/-- A text from which nothing is taken ends in neither a slash nor a blank. -/
theorem endsPlain_of_bare_eq_self (hSome : chars ≠ []) (h : bare chars = chars) : EndsPlain chars := by
  have hTrimmed := (bare_prefix_trimmed chars).length_le
  have hStart := (trimmed_prefix_dropWhile chars).length_le
  rw [h] at hTrimmed
  -- each of the three steps takes something away or nothing, and all together nothing
  have hFirst : chars.dropWhile Text.isBlank = chars :=
    (List.dropWhile_suffix _).eq_of_length_le (by omega)
  have hSecond : Text.trimmed chars = chars := by
    have hPrefix := trimmed_prefix_dropWhile chars
    rw [hFirst] at hPrefix
    exact hPrefix.eq_of_length_le hTrimmed
  have hNotBlank : Text.dropEnd Text.isBlank chars = chars := by
    rwa [Text.trimmed, hFirst] at hSecond
  have hNotSlash : Text.dropEnd (· == '/') chars = chars := by
    rwa [bare, hSecond] at h
  have hLastBlank := List.rdropWhile_eq_self_iff.mp hNotBlank hSome
  have hLastSlash := List.rdropWhile_eq_self_iff.mp hNotSlash hSome
  refine ⟨chars.dropLast, chars.getLast hSome, (List.dropLast_append_getLast hSome).symm, ?_, ?_⟩
  · simpa using hLastSlash
  · simpa using hLastBlank

/-- What is taken away holds no letter. -/
theorem count_bare (chars : List Char) : (bare chars).count 'h' = chars.count 'h' := by
  obtain ⟨start, slashes, blanks, hChars, hStart, hSlashes, hBlanks⟩ := exists_bare_append chars
  -- neither blanks nor slashes are that letter
  have hNoneBlank : ∀ row : List Char, (∀ d ∈ row, Text.isBlank d = true) → row.count 'h' = 0 := by
    intro row hRow
    refine List.count_eq_zero.mpr fun hMem => ?_
    have hBlank := hRow 'h' hMem
    revert hBlank
    decide
  have hNoneSlash : slashes.count 'h' = 0 := by
    refine List.count_eq_zero.mpr fun hMem => ?_
    have hSlash := hSlashes 'h' hMem
    revert hSlash
    decide
  have hCount := congrArg (List.count 'h') hChars
  simp only [List.count_append] at hCount
  have hNoneStart := hNoneBlank start hStart
  have hNoneEnd := hNoneBlank blanks hBlanks
  omega

/-- A base URL that is its own ends well. -/
theorem endsPlain_of_fixed {url : String} (h : baseUrlOf url = url) : EndsPlain url.toList := by
  have hScheme := hasScheme_baseUrlOf url
  have hFixed := congrArg String.toList h
  rw [toList_baseUrlOf] at hFixed
  rw [h] at hScheme
  split at hFixed
  · refine endsPlain_of_bare_eq_self ?_ hFixed
    intro hNone
    rw [hNone] at hScheme
    cases hScheme
  · -- a scheme in front adds a letter, and taking away takes none
    have hCount := congrArg (List.count 'h') hFixed
    rw [List.count_append, count_bare] at hCount
    have hLetter : "http://".toList.count 'h' = 1 := by decide
    omega

/-- A base URL is its own base URL exactly if it comes from a tidy setting. -/
theorem baseUrlOf_baseUrlOf_iff (setting : String) :
    baseUrlOf (baseUrlOf setting) = baseUrlOf setting ↔ IsTidy setting.toList := by
  rw [← endsPlain_bare_iff]
  constructor
  · intro h
    exact (endsPlain_baseUrlOf_iff setting).mp (endsPlain_of_fixed h)
  · exact baseUrlOf_of_endsPlain

/-! ## The base URL of a connection -/

/-- The connection of settings that pass their checks. -/
theorem ofSettings_of_checks {timeout : Duration} (hCheck : settings.check = .ok ())
    (hTimeout : settings.duration .timeout = .ok timeout) :
    ofSettings settings = .ok
      ⟨baseUrlOf (settings.value .url), settings.value .org, settings.value .token, timeout⟩ := by
  simp only [ofSettings, hCheck, hTimeout]
  rfl

end Connection

/-- The same settings but for the URL. -/
def Settings.withUrl (settings : Settings) (url : String) : Settings :=
  ⟨fun key => if key = .url then url else settings.value key⟩

/-- Another URL that is not blank leaves the check as it was. -/
theorem Settings.check_withUrl {settings : Settings} {url : String}
    (hCheck : settings.check = .ok ()) (hUrl : Text.isAllBlank url = false) :
    (settings.withUrl url).check = .ok () := by
  rw [Settings.check_eq_ok_iff] at hCheck ⊢
  intro key hKey
  by_cases hSame : key = .url
  · simpa [Settings.withUrl, hSame] using hUrl
  · simpa [Settings.withUrl, hSame] using hCheck key hKey

namespace Connection

/-- A base URL is never blank, having a scheme. -/
theorem not_isAllBlank_baseUrlOf (setting : String) :
    Text.isAllBlank (baseUrlOf setting) = false := by
  obtain ⟨front, back, hSplit⟩ := hasScheme_iff.mp (hasScheme_baseUrlOf setting)
  rw [Text.isAllBlank, ← hSplit, List.all_eq_false]
  exact ⟨':', by simp, by decide⟩

/-- **Base URLs that are settled.** Settings that pass their checks give a connection, and its base URL
names a scheme. It ends in neither a slash nor a blank exactly if the URL of the settings is tidy: it
holds something else, with slashes before blanks behind that. Exactly then the same settings with the
base URL as their URL give the same base URL again. -/
theorem baseUrl_settled_iff {settings : Settings} {timeout : Duration}
    (hCheck : settings.check = .ok ()) (hTimeout : settings.duration .timeout = .ok timeout) :
    ∃ connection again, ofSettings settings = .ok connection ∧
      ofSettings (settings.withUrl connection.baseUrl) = .ok again ∧
      (∃ scheme rest, connection.baseUrl = scheme ++ "://" ++ rest) ∧
      (EndsPlain connection.baseUrl.toList ↔ IsTidy (settings.value .url).toList) ∧
      (again.baseUrl = connection.baseUrl ↔ IsTidy (settings.value .url).toList) := by
  have hAgain : (settings.withUrl (baseUrlOf (settings.value .url))).check = .ok () :=
    Settings.check_withUrl hCheck (not_isAllBlank_baseUrlOf _)
  refine ⟨_, _, ofSettings_of_checks hCheck hTimeout, ofSettings_of_checks hAgain hTimeout, ?_, ?_, ?_⟩
  · obtain ⟨front, back, hSplit⟩ := hasScheme_iff.mp (hasScheme_baseUrlOf (settings.value .url))
    refine ⟨String.ofList front, String.ofList back, String.toList_inj.mp ?_⟩
    rw [← hSplit]
    simp
  · rw [endsPlain_baseUrlOf_iff, endsPlain_bare_iff]
  · exact baseUrlOf_baseUrlOf_iff (settings.value .url)

/-- Settings with nothing but a URL and what a connection needs beside it. -/
def addressed (url : String) : Settings :=
  ⟨fun key =>
    match key with
    | .url => url
    | .token => "secret"
    | .org => "home"
    | key => key.builtIn⟩

/-- A URL without a scheme, with blanks around it and a slash at its end. -/
theorem baseUrl_settled_local :
    (addressed " localhost:8086/ ").check = .ok () ∧
      (addressed " localhost:8086/ ").duration .timeout = .ok (.ofSeconds 300) ∧
      ofSettings (addressed " localhost:8086/ ") =
        .ok ⟨"http://localhost:8086", "home", "secret", .ofSeconds 300⟩ ∧
      EndsPlain "http://localhost:8086".toList ∧
      ∃ again, ofSettings ((addressed " localhost:8086/ ").withUrl "http://localhost:8086") = .ok again ∧
        again.baseUrl = "http://localhost:8086" := by
  have hCheck : (addressed " localhost:8086/ ").check = .ok () := by decide +kernel
  have hTimeout : (addressed " localhost:8086/ ").duration .timeout = .ok (.ofSeconds 300) := by
    decide +kernel
  have hGiven : ofSettings (addressed " localhost:8086/ ") =
      .ok ⟨"http://localhost:8086", "home", "secret", .ofSeconds 300⟩ := by decide +kernel
  have hTidy : IsTidy ((addressed " localhost:8086/ ").value .url).toList :=
    ⟨" localhost:808".toList, '6', ['/'], [' '], by decide +kernel, ⟨by decide, by decide⟩,
      List.forall_mem_singleton.mpr rfl, List.forall_mem_singleton.mpr (by decide)⟩
  obtain ⟨connection, again, hConnection, hAgain, -, hEnds, hSame⟩ :=
    baseUrl_settled_iff hCheck hTimeout
  obtain rfl := Except.ok.inj (hConnection.symm.trans hGiven)
  exact ⟨hCheck, hTimeout, hGiven, hEnds.mpr hTidy, again, hAgain, hSame.mpr hTidy⟩

/-- **Base URLs that are not settled.** A blank in front of the last slash comes to the end of the base
URL, and is taken away once that is set as the URL. A slash alone leaves the scheme alone, which is taken
for a name once it is set. -/
theorem baseUrl_unsettled :
    (ofSettings (addressed "http://a /")).map (·.baseUrl) = .ok "http://a " ∧
      (ofSettings ((addressed "http://a /").withUrl "http://a ")).map (·.baseUrl) = .ok "http://a" ∧
      (ofSettings (addressed "/")).map (·.baseUrl) = .ok "http://" ∧
      (ofSettings ((addressed "/").withUrl "http://")).map (·.baseUrl) = .ok "http://http:" := by
  decide +kernel

end Connection

end SolarCharts
