import Precommit.Rule.Table

/-!
# The built-in rules

The texts of the built-in tables and of the patterns that decide which matches are
false alarms.
-/

namespace Precommit

namespace RuleText

/-- A forbidden phrase, built in or not. -/
def forbiddenPhrase (source : String) : RuleText where
  source := source
  label := .protocolZero
  message := "Forbidden phrase matched"

/-- A call that writes diagnostic output. -/
def debugCall (source : String) : RuleText where
  source := source
  label := .debugArtifact
  message := "Debug statement detected"

/-- A deprecated interface, with the advice what to use instead. -/
def deprecated (source message : String) : RuleText where
  source := source
  label := .deprecatedApi
  message := message

/-- A part of the Combine framework. -/
def combine (source message : String) : RuleText where
  source := source
  label := .combineUsage
  message := message

/-- A form of a secret. -/
def secret (source message : String) : RuleText where
  source := source
  label := .secretLeakage
  message := message

end RuleText

namespace Builtin

/-- Disclaimers and claims of generation; case does not matter. -/
def forbiddenPhrases : List RuleText :=
  [r"generated\s+by\s+ai",
    r"as\s+an\s+ai",
    r"i\s+have\s+updated",
    r"based\s+on\s+the\s+design\s+doc",
    r"llm[\s\-]optimized",
    r"claude[\s\-]generated",
    r"ai[\s\-]assisted",
    r"co-authored-by.*(?:ai|claude|gpt|copilot)",
    r"generated\s+with",
    r"ai[\s\-]generated",
    r"written\s+by\s+ai",
    r"produced\s+by\s+ai",
    r"created\s+by\s+ai"].map .forbiddenPhrase

/-- Calls that write diagnostic output. -/
def debugCalls : List RuleText :=
  [r"\bprint\s*\(", r"\bdebugPrint\s*\(", r"\bNSLog\s*\(", r"\bdump\s*\("].map .debugCall

/-- Deprecated and banned interfaces. -/
def bannedApis : List RuleText :=
  [.deprecated r"\bObservableObject\b" "Use @Observable instead of ObservableObject",
    .deprecated r"@Published\b" "Use @Observable instead of @Published",
    .deprecated r"@StateObject\b" "Use @State with @Observable instead of @StateObject",
    .deprecated r"@EnvironmentObject\b" "Use @Environment with @Observable instead",
    .combine r"\bimport\s+Combine\b" "Combine framework prohibited",
    .combine r"\bPassthroughSubject\b" "Combine type prohibited",
    .combine r"\bCurrentValueSubject\b" "Combine type prohibited",
    .combine r"\bAnyCancellable\b" "Combine type prohibited",
    .combine r"\.sink\s*\(" "Combine operator prohibited",
    .combine r"\.assign\s*\(\s*to:" "Combine operator prohibited",
    .deprecated r"\bDispatchQueue\b" "Use async/await instead of GCD",
    .deprecated r"\bDispatchGroup\b" "Use TaskGroup instead of DispatchGroup",
    .deprecated r"\bDispatchSemaphore\b" "Use Swift concurrency instead",
    .deprecated r"\bperformSelector\b" "Use Swift concurrency instead",
    .deprecated r"\bPreviewProvider\b" "Use #Preview macro instead of PreviewProvider",
    .deprecated r"\bUIHostingController\b" "UIHostingController requires explicit approval",
    .deprecated r"\bUIViewController\b" "UIKit controllers prohibited — use SwiftUI",
    .combine r"\bPublishers\.\b" "Combine Publishers namespace prohibited",
    .combine r"\bSubscribers\.\b" "Combine Subscribers namespace prohibited",
    .combine r"\bAnyPublisher\b" "Combine type prohibited",
    .combine r"\bPublished\.Publisher\b" "Combine type prohibited",
    .combine r"\bCancellable\b" "Combine protocol prohibited",
    .combine r"\.receive\s*\(\s*on:" "Combine operator prohibited",
    .combine r"\.eraseToAnyPublisher\s*\(" "Combine operator prohibited"]

/-- Forms in which secrets are written into files. -/
def secrets : List RuleText :=
  [.secret r"(?i)https?://discord(?:app)?\.com/api/webhooks/"
      "Plaintext Discord webhook URL detected",
    .secret
      (r"(?i)(?:api[_\-]?key|api[_\-]?secret|access[_\-]?token|auth[_\-]?token|" ++
        r#"bearer|secret[_\-]?key|private[_\-]?key)\s*[:=]\s*["'][A-Za-z0-9+/=_\-]{16,}["']"#)
      "Potential secret or API key in plaintext",
    .secret r#"["'][A-Za-z0-9+/=]{40,}["']"#
      "High-entropy string literal (potential encoded secret)"]

/-- A character that can end an operand, and an exclamation mark. -/
def unwrapCandidate : String := r#"[\w\)>\]"]!"#

/-- Lines on which an exclamation mark is not taken for an unwrap. -/
def unwrapFalsePositive : String :=
  r"!=|!==|#available|#unavailable|XCTUnwrap|@IBOutlet|///|//.*!"

/-- Lines on which nothing is taken for a secret. -/
def secretFalsePositive : String :=
  r"test_|mock_|fake_|example_|XOR|xor|\.xcassets|bundleIdentifier|UTType"

end Builtin

end Precommit
