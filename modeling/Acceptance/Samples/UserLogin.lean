import Acceptance.Run.Fixture

namespace Acceptance.Samples

/-! The login page of a web application. -/

structure UserLogin where
  user : String := ""
  password : String := ""
  loggedIn : Bool := false
deriving DecidableEq

namespace UserLogin

def acceptedPassword : String :=
  "P@ssw0rd"

def message (login : UserLogin) : String :=
  if login.loggedIn then "Welcome, " ++ login.user else "Invalid Username or Password!"

def page (login : UserLogin) : String :=
  if login.loggedIn then "home.html" else "loginerror.html"

def registry : Registry UserLogin :=
  Registry.empty
    |>.register "userArrivesAtTheLoginPage"
      (.action [.text] fun (user, ()) login => { login with user := user })
    |>.register "entersPasswordOf"
      (.action [.text] fun (password, ()) login => { login with password := password })
    |>.register "heClicksOnTheLoginButton"
      (.action [] fun () login =>
        { login with loggedIn := login.password = acceptedPassword })
    |>.register "heShouldSeeAResultMessageOf"
      (.check [.text] fun (expected, ()) login =>
        .assertion (Assertion.equalsDisplayed expected login.message))
    |>.register "heIsDirectedToPage"
      (.check [.text] fun (expected, ()) login => .flag (login.page = expected))

def fixture : Fixture UserLogin where
  steps := .returned registry

end UserLogin

end Acceptance.Samples
