import CodeReview.InputError
import CodeReview.Text.Blank
import CodeReview.Json.Record
set_option autoImplicit false

/-!
Kinds of authentication. Those integrated with a directory may bring in accounts that the
directory knows and the store does not.
-/
namespace CodeReview

inductive AuthType where
  | http
  | httpLdap
  | clientSslCertLdap
  | ldap
  | ldapBind
  | oauth
  | openid
  | openidSso
  | developmentBecomeAnyAccount
  | customExtension
  deriving DecidableEq, Repr

namespace AuthType

def all : List AuthType :=
  [.http, .httpLdap, .clientSslCertLdap, .ldap, .ldapBind, .oauth, .openid, .openidSso,
    .developmentBecomeAnyAccount, .customExtension]

def name : AuthType → String
  | .http => "HTTP"
  | .httpLdap => "HTTP_LDAP"
  | .clientSslCertLdap => "CLIENT_SSL_CERT_LDAP"
  | .ldap => "LDAP"
  | .ldapBind => "LDAP_BIND"
  | .oauth => "OAUTH"
  | .openid => "OPENID"
  | .openidSso => "OPENID_SSO"
  | .developmentBecomeAnyAccount => "DEVELOPMENT_BECOME_ANY_ACCOUNT"
  | .customExtension => "CUSTOM_EXTENSION"

def usesDirectory : AuthType → Bool
  | .ldap | .httpLdap | .clientSslCertLdap => true
  | _ => false

/-- The kind of a name, with blanks around it and in letters of either case. -/
def parse (s : String) : Except InputError AuthType :=
  match all.find? fun t => Text.sameFolded t.name (Text.trim s) with
  | some t => .ok t
  | none => .error (.unknownAuthType s)

def toJson (t : AuthType) : Json :=
  .text t.name

def ofJson? (j : Json) : Option AuthType :=
  j.variant? (all.map fun t => (t.name, t))

end AuthType

end CodeReview
