import ProxyHandshake.Configuration
import ProxyHandshake.Proofs.Url.Login

/-!
# Passwords in the URL of the proxy

A URL of the proxy with a user is refused, and the message does not show his password.  But the user is only
recognised behind two slashes, or behind a scheme of the web.  Where the slashes are missing and the user can
be another scheme, the password counts as the beginning of a path, and the message quotes the whole text.
-/

namespace ProxyHandshake

open Url

namespace Configuration

/-- The message by which the URL of the proxy is refused. -/
def refusal? (configuration : Configuration) : Option String :=
  match configuration.proxyUrl with
  | .error cause => some (ConfigurationError.invalid cause).message
  | .ok _ => none

def through (configuration : Configuration) (text : String) : Configuration :=
  { configuration with url := some text }

section

variable {configuration : Configuration} {text : String}

theorem proxyUrl_of_error {cause : UrlError} (hparse : parse text = .error cause) :
    (configuration.through text).proxyUrl = .error (.invalidProxy cause) := by
  simp only [proxyUrl, through, hparse]

theorem proxyUrl_of_hasUser {url : Url} (hparse : parse text = .ok url)
    (huser : url.hasUser = true) :
    (configuration.through text).proxyUrl = .error .proxyWithUser := by
  simp only [proxyUrl, through, hparse, huser, if_true]

theorem proxyUrl_of_scheme {url : Url} (hparse : parse text = .ok url)
    (huser : url.hasUser = false) (hscheme : url.scheme ≠ "http") :
    (configuration.through text).proxyUrl = .error (.proxyNotHttp text) := by
  simp only [proxyUrl, through, hparse, huser, hscheme, ne_eq, not_false_eq_true, if_true,
    Bool.false_eq_true, if_false]

end

/-- What is refused whoever the user is, is refused in the same words. -/
theorem refusal?_of_user
    (configuration : Configuration) (read : Except UrlError Url) :
    ∃ message, ∀ text user, user.isWritten = true →
      parse text = read.map (fun url => url.withUser user) →
        (configuration.through text).refusal? = some message := by
  cases read with
  | error cause =>
      refine ⟨(ConfigurationError.invalid (.invalidProxy cause)).message,
        fun text user _ hparse => ?_⟩
      rw [refusal?, proxyUrl_of_error hparse]
  | ok url =>
      refine ⟨(ConfigurationError.invalid .proxyWithUser).message,
        fun text user hwritten hparse => ?_⟩
      rw [refusal?, proxyUrl_of_hasUser hparse ((url.hasUser_withUser user).trans hwritten)]

/-- The message for a text that is no URL of the web shows the text. -/
theorem refusal?_of_scheme
    {configuration : Configuration} {text : String} {url : Url} (hparse : parse text = .ok url)
    (huser : url.hasUser = false) (hscheme : url.scheme ≠ "http") :
    (configuration.through text).refusal? =
      some ("Configuration error: proxy url must start with http://, got: " ++ text) := by
  rw [refusal?, proxyUrl_of_scheme hparse huser hscheme]
  rfl

/-! ## Users with a password -/

section

variable {user secret other host : List Char}

/-- Whether a user in front of a colon is read as a scheme beside those of the web. -/
def isOtherScheme (user : List Char) : Bool :=
  isScheme user && SchemeKind.of (String.ofList (Text.lowerChars user)) ≠ .web

/-- Behind two slashes, users and passwords are all the same. -/
theorem refusal?_loginUrl (configuration : Configuration) {scheme : List Char}
    (hscheme : isScheme scheme = true) (hhost : '@' ∉ host) :
    ∃ message, ∀ user secret, IsLogin user secret →
      (configuration.through (loginUrl scheme user secret host)).refusal? = some message := by
  obtain ⟨read, hread⟩ := parse_loginUrl hscheme hhost
  obtain ⟨message, hmessage⟩ := refusal?_of_user configuration read
  exact ⟨message, fun user secret hlogin =>
    hmessage _ _ hlogin.isWritten (hread user secret hlogin)⟩

/-- The message for a user that is no other scheme is the same for all passwords. -/
theorem refusal?_loginText_of_not_isOtherScheme (configuration : Configuration)
    (huser : isOtherScheme user = false) (hhost : '@' ∉ host) :
    ∃ message, ∀ secret, IsLogin user secret →
      (configuration.through (loginText user secret host)).refusal? = some message := by
  obtain ⟨inner, hinner, hparse⟩ := parse_loginText hhost
  cases hscheme : isScheme user with
  | false =>
      refine ⟨(ConfigurationError.invalid (.invalidProxy .noScheme)).message,
        fun secret hlogin => ?_⟩
      have hread := hparse user secret hlogin
      rw [hscheme, if_neg Bool.false_ne_true] at hread
      rw [refusal?, proxyUrl_of_error hread]
  | true =>
      have hweb : SchemeKind.of (String.ofList (Text.lowerChars user)) = .web := by
        simpa [isOtherScheme, hscheme] using huser
      obtain ⟨read, hread⟩ := readRest_of_web hweb hinner
      obtain ⟨message, hmessage⟩ := refusal?_of_user configuration read
      refine ⟨message, fun secret hlogin => hmessage _ (readUser secret) ?_ ?_⟩
      · exact isWritten_readUser (hlogin.secretText.not_mem (by decide)) hlogin.nonempty
      · rw [hparse user secret hlogin, if_pos hscheme]
        exact hread secret hlogin.secretText hlogin.nonempty

/-- The message for a user that is another scheme shows the password. -/
theorem refusal?_loginText_of_isOtherScheme (configuration : Configuration)
    (huser : isOtherScheme user = true) (hlogin : IsLogin user secret) (hhost : '@' ∉ host) :
    (configuration.through (loginText user secret host)).refusal? =
      some ("Configuration error: proxy url must start with http://, got: " ++
        loginText user secret host) := by
  rw [isOtherScheme, Bool.and_eq_true, decide_eq_true_eq] at huser
  obtain ⟨hscheme, hother⟩ := huser
  obtain ⟨inner, hinner, hparse⟩ := parse_loginText hhost
  obtain ⟨url, hread, hlower, hnone⟩ :=
    readRest_of_not_web hother hlogin.secretText hlogin.nonempty ('@' :: inner)
  have hurl : parse (loginText user secret host) = .ok url := by
    rw [hparse user secret hlogin, if_pos hscheme, hread]
  apply refusal?_of_scheme hurl hnone
  intro hhttp
  rw [← hlower, hhttp] at hother
  exact hother (by decide)

/-- A text with a user and a password is never a URL of a proxy.  Two passwords of one user lead to the same
message, unless the user is a scheme beside those of the web; then the message shows the password.  Behind a
scheme and two slashes they always lead to the same. -/
theorem refusal?_login_eq_iff (configuration : Configuration)
    (hlogin : IsLogin user secret) (hother : IsLogin user other) (hhost : '@' ∉ host) :
    ((∃ message, (configuration.through (loginText user secret host)).refusal? = some message) ∧
      ∃ message, (configuration.through (loginText user other host)).refusal? = some message) ∧
    ((configuration.through (loginText user secret host)).refusal? =
        (configuration.through (loginText user other host)).refusal? ↔
      secret = other ∨ isOtherScheme user = false) ∧
    ∀ scheme, isScheme scheme = true → ∃ message,
      (configuration.through (loginUrl scheme user secret host)).refusal? = some message ∧
      (configuration.through (loginUrl scheme user other host)).refusal? = some message := by
  rw [← and_assoc]
  constructor
  · cases huser : isOtherScheme user with
    | false =>
        obtain ⟨message, hmessage⟩ :=
          refusal?_loginText_of_not_isOtherScheme configuration huser hhost
        rw [hmessage secret hlogin, hmessage other hother]
        exact ⟨⟨⟨message, rfl⟩, message, rfl⟩, iff_of_true rfl (.inr rfl)⟩
    | true =>
        rw [refusal?_loginText_of_isOtherScheme configuration huser hlogin hhost,
          refusal?_loginText_of_isOtherScheme configuration huser hother hhost]
        refine ⟨⟨⟨_, rfl⟩, _, rfl⟩, ?_⟩
        rw [Option.some_inj, String.append_right_inj, loginText_inj]
        simp
  · intro scheme hscheme
    obtain ⟨message, hmessage⟩ := refusal?_loginUrl configuration hscheme hhost
    exact ⟨message, hmessage user secret hlogin, hmessage user other hother⟩

end

/-! ### A user with and without a scheme in front -/

theorem refusal?_login_eq_iff_alice :
    let refused (text : String) := (default.through text).refusal?
    let user := "alice".toList
    let host := "proxy.test:3128".toList
    refused (loginText user "s3cret".toList host) ≠ refused (loginText user "other".toList host) ∧
      ∃ message, refused (loginUrl "http".toList user "s3cret".toList host) = some message ∧
        refused (loginUrl "http".toList user "other".toList host) = some message := by
  intro refused user host
  have hlogin : IsLogin user "s3cret".toList := ⟨by decide, by decide, by decide⟩
  have hother : IsLogin user "other".toList := ⟨by decide, by decide, by decide⟩
  have hhost : '@' ∉ host := by decide
  obtain ⟨_, hsame, hslashed⟩ := refusal?_login_eq_iff default hlogin hother hhost
  constructor
  · intro hequal
    rcases hsame.mp hequal with hsecret | huser
    · exact absurd hsecret (by decide)
    · exact absurd huser (by decide)
  · exact hslashed "http".toList (by decide)

end Configuration

end ProxyHandshake
