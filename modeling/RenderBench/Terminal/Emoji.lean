import RenderBench.Text.Blank
import RenderBench.Text.CaseMap

/-!
# `Terminal.Emoji` — emoji by name

A name between colons stands for an emoji, in any letter case. A dash and the word "text" or "emoji" after
the name choose how it is drawn. A name that is not in the table stays as it is, with both colons; the table holds a
small part of the names that terminals know.

## Contents
- `emojiNames`: the names in the table.
- `EmojiCode`, `emojiCode?`: a name between colons.
- `replaceEmoji`: all names replaced.
-/

namespace RenderBench.Terminal

/-- Some names of emoji, of the several thousand that there are. -/
def emojiNames : List (String × String) :=
  [("+1", "👍"), ("-1", "👎"), ("100", "💯"), ("bar_chart", "📊"), ("beer", "🍺"), ("blush", "😊"),
   ("bomb", "💣"), ("boom", "💥"), ("broken_heart", "💔"), ("bug", "🐛"), ("bulb", "💡"),
   ("chart_with_downwards_trend", "📉"), ("chart_with_upwards_trend", "📈"), ("clap", "👏"),
   ("coffee", "☕"), ("computer", "💻"), ("eyes", "👀"), ("fire", "🔥"), ("gear", "⚙"),
   ("ghost", "👻"), ("grin", "😁"), ("grinning", "😀"), ("hammer", "🔨"), ("heart", "❤"),
   ("heavy_check_mark", "✔"), ("hourglass", "⌛"), ("joy", "😂"), ("key", "🔑"), ("lock", "🔒"),
   ("memo", "📝"), ("package", "📦"), ("pile_of_poo", "💩"), ("pizza", "🍕"), ("poop", "💩"),
   ("robot", "🤖"), ("rocket", "🚀"), ("skull", "💀"), ("smile", "😄"), ("smiley", "😃"),
   ("snake", "🐍"), ("sparkles", "✨"), ("star", "⭐"), ("sunglasses", "😎"), ("tada", "🎉"),
   ("thumbs_down", "👎"), ("thumbs_up", "👍"), ("thumbsdown", "👎"), ("thumbsup", "👍"),
   ("vampire", "🧛"), ("warning", "⚠"), ("watch", "⌚"), ("wave", "👋"),
   ("white_check_mark", "✅"), ("wink", "😉"), ("wrench", "🔧"), ("x", "❌"), ("zap", "⚡")]

/-- The characters that choose how an emoji is drawn. -/
def emojiVariants : List (List Char × List Char) :=
  [("-text:".toList, ['\ufe0e']), ("-emoji:".toList, ['\ufe0f']), (":".toList, [])]

/-- A name between colons, the colons with everything between them, and what follows. -/
structure EmojiCode where
  name : List Char
  variant : List Char
  whole : List Char
  rest : List Char

/-- The end of a name: its variant, the characters that tell it, and what follows. -/
def emojiEnd? (cs : List Char) : Option (List Char × List Char × List Char) :=
  emojiVariants.findSome? fun (mark, variant) =>
    if mark.isPrefixOf cs then some (variant, mark, cs.drop mark.length) else none

/-- The name after a colon, which ends as early as possible; `name` is its part so far, reversed. -/
def emojiCode? (name : List Char) : List Char → Option EmojiCode
  | [] => none
  | c :: cs =>
    match emojiEnd? (c :: cs) with
    | some (variant, mark, rest) =>
      some ⟨name.reverse, variant, ':' :: name.reverse ++ mark, rest⟩
    | none => if isBlank c then none else emojiCode? (c :: name) cs

/-- What stands for a name between colons. -/
def EmojiCode.replacement (e : EmojiCode) : List Char :=
  match emojiNames.lookup (lower (String.ofList e.name)) with
  | some emoji => emoji.toList ++ e.variant
  | none => e.whole

/-- Names between colons replaced; every replacement takes at least one character, so that their number
    is fuel enough. -/
def replaceEmojiWithin : Nat → List Char → List Char
  | 0, cs => cs
  | _, [] => []
  | fuel + 1, c :: cs =>
    if c = ':' then
      match emojiCode? [] cs with
      | some e => e.replacement ++ replaceEmojiWithin fuel e.rest
      | none => c :: replaceEmojiWithin fuel cs
    else c :: replaceEmojiWithin fuel cs

def replaceEmoji (cs : List Char) : List Char := replaceEmojiWithin cs.length cs

end RenderBench.Terminal
