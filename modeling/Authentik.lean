import Authentik.Python.Builtins
import Authentik.Python.Utf8
import Authentik.Python.Urllib.Parse
import Authentik.Django.Http
import Authentik.Providers.OAuth2.Models
import Authentik.Providers.OAuth2.Views.Authorize.Params
import Authentik.Providers.OAuth2.Views.Authorize.InitView
import Authentik.Providers.OAuth2.Views.Authorize.Fulfillment
import Authentik.Providers.OAuth2.Views.Authorize.Redirects
import Authentik.Providers.OAuth2.Views.Authorize.Validation
import Authentik.Providers.OAuth2.Views.Authorize.Checks
import Authentik.Providers.OAuth2.Views.Authorize.Dispatch
import Authentik.Providers.OAuth2.Views.Authorize.Responses
import Authentik.Providers.OAuth2.Views.Authorize.Session
import Authentik.Providers.OAuth2.Views.Authorize.Provisioning
import Authentik.Events.Utils
import Authentik.Events.Sanitize
import Authentik.Events.Cleanse
import Authentik.Events.FixedPoints
import Authentik.Python.Urllib.Roundtrip
import Authentik.Providers.OAuth2.Views.Authorize.Writes
import Authentik.Providers.OAuth2.Views.Authorize.Handoff
import Authentik.Providers.OAuth2.Views.Authorize.FormPost
