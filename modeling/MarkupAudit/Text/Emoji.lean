import MarkupAudit.Text.Blank

/-! Picture codes: a name between colons stands for a picture, perhaps with a word for the form it
is shown in. Unknown codes stay as they are. -/
namespace MarkupAudit.Text.Emoji

def table : List (String × List Nat) := [
  ("smile", [0x1F604]), ("smiley", [0x1F603]), ("grinning", [0x1F600]), ("laughing", [0x1F606]),
  ("wink", [0x1F609]), ("blush", [0x1F60A]), ("heart_eyes", [0x1F60D]), ("sunglasses", [0x1F60E]),
  ("thinking_face", [0x1F914]), ("cry", [0x1F622]), ("sob", [0x1F62D]), ("joy", [0x1F602]),
  ("scream", [0x1F631]), ("rage", [0x1F621]), ("sleeping", [0x1F634]), ("skull", [0x1F480]),
  ("ghost", [0x1F47B]), ("alien", [0x1F47D]), ("robot", [0x1F916]), ("poop", [0x1F4A9]),
  ("thumbsup", [0x1F44D]), ("+1", [0x1F44D]), ("thumbsdown", [0x1F44E]), ("-1", [0x1F44E]),
  ("ok_hand", [0x1F44C]), ("wave", [0x1F44B]), ("clap", [0x1F44F]), ("pray", [0x1F64F]),
  ("muscle", [0x1F4AA]), ("point_right", [0x1F449]), ("point_left", [0x1F448]),
  ("eyes", [0x1F440]), ("heart", [0x2764]), ("broken_heart", [0x1F494]), ("star", [0x2B50]),
  ("sparkles", [0x2728]), ("fire", [0x1F525]), ("boom", [0x1F4A5]), ("zap", [0x26A1]),
  ("snowflake", [0x2744]), ("sunny", [0x2600]), ("cloud", [0x2601]), ("umbrella", [0x2614]),
  ("rainbow", [0x1F308]), ("tada", [0x1F389]), ("gift", [0x1F381]), ("rocket", [0x1F680]),
  ("bug", [0x1F41B]), ("snake", [0x1F40D]), ("dog", [0x1F436]), ("cat", [0x1F431]),
  ("pile_of_poo", [0x1F4A9]), ("pizza", [0x1F355]), ("beer", [0x1F37A]), ("coffee", [0x2615]),
  ("cake", [0x1F370]), ("apple", [0x1F34E]), ("lock", [0x1F512]), ("unlock", [0x1F513]),
  ("key", [0x1F511]), ("bell", [0x1F514]), ("bulb", [0x1F4A1]), ("book", [0x1F4D6]),
  ("memo", [0x1F4DD]), ("pencil", [0x1F4DD]), ("wrench", [0x1F527]), ("hammer", [0x1F528]),
  ("gear", [0x2699]), ("link", [0x1F517]), ("package", [0x1F4E6]), ("computer", [0x1F4BB]),
  ("phone", [0x260E]), ("email", [0x2709]), ("hourglass", [0x231B]), ("watch", [0x231A]),
  ("warning", [0x26A0]), ("no_entry", [0x26D4]), ("stop_sign", [0x1F6D1]),
  ("construction", [0x1F6A7]), ("question", [0x2753]), ("exclamation", [0x2757]),
  ("x", [0x274C]), ("white_check_mark", [0x2705]), ("heavy_check_mark", [0x2714]),
  ("check_mark", [0x2714]), ("cross_mark", [0x274C]), ("100", [0x1F4AF]),
  ("red_circle", [0x1F534]), ("recycle", [0x267B]), ("checkered_flag", [0x1F3C1]),
  ("earth_americas", [0x1F30E]), ("vampire", [0x1F9DB])]

/-- A code's name apart from the word for its form, and the mark that asks for that form. -/
def splitForm (code : List Char) : List Char × List Char :=
  if "-emoji".toList.isSuffixOf code then (code.take (code.length - 6), ['\uFE0F'])
  else if "-text".toList.isSuffixOf code then (code.take (code.length - 5), ['\uFE0E'])
  else (code, [])

def picture? (code : List Char) : Option (List Char) :=
  let (name, form) := splitForm code
  (table.lookup (String.ofList (name.map Char.toLower))).map fun codes =>
    codes.map Char.ofNat ++ form

def replaceCodes : List Char → List Char
  | [] => []
  | c :: cs =>
    if c = ':' then
      let code := cs.takeWhile fun c => c != ':' && !isBlank c
      if (cs.drop code.length).head? = some ':' then
        let written := (picture? code).getD (':' :: code ++ [':'])
        written ++ replaceCodes (cs.drop (code.length + 1))
      else c :: replaceCodes cs
    else c :: replaceCodes cs
termination_by cs => cs.length
decreasing_by
  · rw [List.length_drop, List.length_cons]
    omega
  · exact Nat.lt_succ_self _
  · exact Nat.lt_succ_self _

end MarkupAudit.Text.Emoji
