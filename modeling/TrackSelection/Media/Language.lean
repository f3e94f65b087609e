import TrackSelection.Halving
import TrackSelection.Text.Blank

/-!
# Language tags

A tag is text; its primary subtag is the part before the first hyphen. Tags are brought to a normal
form before they are compared: blanks around them are dropped, letters are ASCII lower case,
underscores are hyphens, and a primary subtag with a shorter or newer code is replaced by that code.
-/

namespace TrackSelection.Language

/-- Primary subtags that are written differently: terminological and bibliographic three-letter
codes, and withdrawn two-letter codes. They stand in ascending order, since the table is searched by
halving. -/
def aliases : List (String × String) :=
  [("ara", "ar"), ("baq", "eu"), ("ben", "bn"), ("bul", "bg"), ("cat", "ca"), ("ces", "cs"),
   ("chi", "zh"), ("cze", "cs"), ("dan", "da"), ("deu", "de"), ("dut", "nl"), ("ell", "el"),
   ("eng", "en"), ("est", "et"), ("eus", "eu"), ("fas", "fa"), ("fin", "fi"), ("fra", "fr"),
   ("fre", "fr"), ("ger", "de"), ("glg", "gl"), ("gre", "el"), ("heb", "he"), ("hin", "hi"),
   ("hrv", "hr"), ("hun", "hu"), ("ice", "is"), ("in", "id"), ("ind", "id"), ("isl", "is"),
   ("ita", "it"), ("iw", "he"), ("ji", "yi"), ("jpn", "ja"), ("kor", "ko"), ("lav", "lv"),
   ("lit", "lt"), ("may", "ms"), ("msa", "ms"), ("nld", "nl"), ("nno", "nn"), ("nob", "nb"),
   ("nor", "no"), ("per", "fa"), ("pol", "pl"), ("por", "pt"), ("ron", "ro"), ("rum", "ro"),
   ("rus", "ru"), ("slk", "sk"), ("slo", "sk"), ("slv", "sl"), ("spa", "es"), ("srp", "sr"),
   ("swe", "sv"), ("tam", "ta"), ("tel", "te"), ("tha", "th"), ("tur", "tr"), ("ukr", "uk"),
   ("urd", "ur"), ("vie", "vi"), ("yid", "yi"), ("zho", "zh")]

/-- The tag of content whose language is not known. -/
def undetermined : String := "und"

def foldChar (c : Char) : Char :=
  if c = '_' then '-' else c.toLower

/-- The primary subtag: the text before the first hyphen. -/
def primaryChars (tag : List Char) : List Char :=
  tag.takeWhile (· ≠ '-')

/-- What follows the primary subtag, from the hyphen on. -/
def subtagChars (tag : List Char) : List Char :=
  tag.dropWhile (· ≠ '-')

/-- The code that is preferred to a primary subtag, if that is an alias. -/
def alias? (word : String) : Option String :=
  (search? (fun entry => compare entry.1 word) aliases).map Prod.snd

def preferredChars (subtag : List Char) : List Char :=
  (alias? (String.ofList subtag)).elim subtag String.toList

def normalizeChars (tag : List Char) : List Char :=
  let folded := (Text.trimmed tag).map foldChar
  preferredChars (primaryChars folded) ++ subtagChars folded

def normalize (tag : String) : String :=
  String.ofList (normalizeChars tag.toList)

def primary (tag : String) : String :=
  String.ofList (primaryChars tag.toList)

/-- A tag that names a language: neither missing, empty nor undetermined. -/
def determined? (tag : Option String) : Option String :=
  tag.filter fun t => t ≠ "" ∧ t ≠ undetermined

/-- How well the language of a track answers a query: 4 when they are equal, 3 when one continues
the other, 2 when they share the primary subtag, 1 when the track's language is undetermined and
that is allowed, and 0 otherwise. -/
def matchScore (track query : Option String) (allowUndetermined : Bool) : Nat :=
  if query.isSome ∧ query ≠ some "" ∧ query = track then 4
  else match determined? track, determined? query with
    | some t, some q =>
      if q.toList.isPrefixOf t.toList ∨ t.toList.isPrefixOf q.toList then 3
      else if primary t = primary q then 2
      else 0
    | none, _ => if allowUndetermined then 1 else 0
    | some _, none => 0

end TrackSelection.Language
