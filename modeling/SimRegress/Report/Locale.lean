import SimRegress.Decimal.Layout

/-!
The languages of the console texts, and the texts in each.

A language tag names English (`en`) or simplified Chinese (`zh-CN`) exactly. Any other tag
falls back: its last `-` part is cut off (and every `-x` that then ends it) until a known tag is
left; English is taken when none is.
-/

namespace SimRegress

/-- A language of the console texts. -/
inductive Locale where
  | en
  | zhCN
  deriving DecidableEq, Repr

/-- The language a tag names exactly. -/
def Locale.ofTag? : String → Option Locale
  | "en" => some .en
  | "zh-CN" => some .zhCN
  | _ => none

/-- Cuts every `-x` off the end of a tag, given in reverse. -/
def dropPrivateMarks : List Char → List Char
  | 'x' :: '-' :: rest => dropPrivateMarks rest
  | cs => cs

/-- A tag without its last `-` part, given and returned in reverse. -/
def parentTag? (rev : List Char) : Option (List Char) :=
  if rev.contains '-' then some (dropPrivateMarks ((rev.dropWhile (· != '-')).drop 1))
  else none

/-- Falls back from a tag, given in reverse, until a known one is left. -/
def fallback : Nat → List Char → Locale
  | 0, _ => .en
  | fuel + 1, rev =>
    match Locale.ofTag? (String.ofList rev.reverse) with
    | some l => l
    | none =>
      match parentTag? rev with
      | some p => fallback fuel p
      | none => .en

/-- The language of a tag. -/
def Locale.resolve (tag : String) : Locale := fallback (tag.length + 1) tag.toList.reverse

def countText (n : Nat) : String := Decimal.digitsText n

/-- How a job ended, as a report names it. -/
inductive StatusWord where
  | passed
  | failed
  | timedOut
  | internalError
  | allowedFailure
  deriving DecidableEq, Repr

/-- The word for how a job ended. -/
def Locale.status : Locale → StatusWord → String
  | .en, .passed => "Passed"
  | .en, .failed => "Failed"
  | .en, .timedOut => "Timed out"
  | .en, .internalError => "Internal error"
  | .en, .allowedFailure => "Allowed failure"
  | .zhCN, .passed => "通过"
  | .zhCN, .failed => "失败"
  | .zhCN, .timedOut => "超时"
  | .zhCN, .internalError => "内部错误"
  | .zhCN, .allowedFailure => "允许的失败"

def Locale.finishedExample (l : Locale) (finished total percent eta id status : String) : String :=
  match l with
  | .en => "Finished example " ++ finished ++ "/" ++ total ++ "; " ++ percent ++ "%; ETA " ++ eta ++
    "; " ++ id ++ "; " ++ status
  | .zhCN => "已完成示例 " ++ finished ++ "/" ++ total ++ "；" ++ percent ++ "%；预计剩余 " ++ eta ++
    "；" ++ id ++ "；" ++ status

def Locale.summaryBanner : Locale → String
  | .en => "--- Example Summary ---"
  | .zhCN => "--- 示例摘要 ---"

def Locale.summaryCounts (l : Locale) (total failed allowed : Nat) : String :=
  match l with
  | .en => countText total ++ " examples, " ++ countText failed ++ " failed, " ++ countText allowed ++
    " allowed failures."
  | .zhCN => "共 " ++ countText total ++ " 个示例，" ++ countText failed ++ " 个失败，" ++
    countText allowed ++ " 个允许的失败。"

def Locale.compareFailedCount (l : Locale) (n : Nat) : String :=
  match l with
  | .en => countText n ++ " failed"
  | .zhCN => countText n ++ " 项失败"

def Locale.noReference : Locale → String
  | .en => "no reference"
  | .zhCN => "无参考"

def Locale.deprecatedWarnings (l : Locale) (n : Nat) : String :=
  match l with
  | .en => countText n ++ " deprecation warnings in the output of the examples."
  | .zhCN => "示例输出中有 " ++ countText n ++ " 条弃用警告。"

def Locale.unexpectedFailureBanner : Locale → String
  | .en => "--- Unexpected Failures ---"
  | .zhCN => "--- 意外失败 ---"

def Locale.headerFailure : Locale → String
  | .en => "FAILED:"
  | .zhCN => "失败："

def Locale.internalErrorLog : Locale → String
  | .en => "Internal Error"
  | .zhCN => "内部错误"

def Locale.comparisonLog : Locale → String
  | .en => "Comparison"
  | .zhCN => "比较"

def Locale.executionLog : Locale → String
  | .en => "Output (last lines)"
  | .zhCN => "输出（最后几行）"

def Locale.comparisonTotals (l : Locale) (compared failed : Nat) : String :=
  match l with
  | .en => countText compared ++ " items compared, " ++ countText failed ++ " failed."
  | .zhCN => "比较了 " ++ countText compared ++ " 项，" ++ countText failed ++ " 项失败。"

def Locale.mixedInputs : Locale → String
  | .en => "Both arguments must be files or both must be directories."
  | .zhCN => "两个参数必须都是文件或都是目录。"

/-- The number of failed comparison items of a standalone comparison. -/
def Locale.compareFailed (l : Locale) (n : Nat) : String :=
  match l with
  | .en => countText n ++ " comparison items failed."
  | .zhCN => countText n ++ " 个比较项失败。"

end SimRegress
