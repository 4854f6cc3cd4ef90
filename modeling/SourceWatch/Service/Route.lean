import SourceWatch.Service.Message
import SourceWatch.Sink.Url

/-!
# Routes

The service answers at six paths, each with one method. A target is a reference relative to the address
of the service: a host in it, its query and its fragment play no part, dot segments are resolved, and
slashes at its end are ignored. This is the view of a client that goes along with redirects.

Main definitions:

* `Route`, with `Route.path` and `Route.verb`.
* `targetPath`: the path that a target names.
* `Route.ofTarget?`: the route that a target leads to.
-/

namespace SourceWatch.Service

open Text

/-- A place where the service answers. -/
inductive Route where
  | health
  | scan
  | start
  | stop
  | status
  | test
  deriving DecidableEq

namespace Route

/-- All routes. -/
def all : List Route :=
  [health, scan, start, stop, status, test]

/-- The path of a route. -/
def path : Route → String
  | health => "/health"
  | scan => "/scan"
  | start => "/start"
  | stop => "/stop"
  | status => "/status"
  | test => "/test"

/-- The method of a route. -/
def verb : Route → String
  | health | status => "GET"
  | scan | start | stop | test => "POST"

end Route

/-- A reference without the host that it may name. -/
def dropHost : List Char → List Char
  | '/' :: '/' :: behind => behind.dropWhile (· ≠ '/')
  | reference => reference

/-- The path that a target names, with a single slash at its start and none at its end, in bytes. The
client resolves the target, so that `//host/scan` asks for `/scan`, and it goes along with redirects: the
service answers `/scan/` with a redirect to `/scan`, and only what the client gets in the end is told. -/
def targetPath (target : String) : List UInt8 :=
  let reference := target.toList.takeWhile fun c => !(c = '?' || c = '#')
  let path := Url.normalPath ('/' :: (dropHost reference).dropWhile (· = '/'))
  let slash : UInt8 := 47
  ((percentDecode path).reverse.dropWhile (· = slash)).reverse

/-- The route that a target leads to. -/
def Route.ofTarget? (target : String) : Option Route :=
  Route.all.find? fun route => targetPath target = Utf8.encodeString route.path

end SourceWatch.Service
